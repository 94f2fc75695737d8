import ShaderPipeline.Gpu.Assembly

/-!
# Traces

What a script did, with the replies: a trace has every call together with its reply, the events and
the result. `Script.Yields` says which traces a script can have whatever the device is, and follows
the script; the traces of a run are of this kind (`yields_run`). So what is shown of the traces of a
script holds of its runs on all devices.

The exchanges of graphics calls that create something are told apart at the end: what they returned,
or the text with which they failed. What the other calls mean is no concern here.
-/

namespace ShaderPipeline.Gpu

variable {S P T σ α β : Type} {I : Interface}

/-- A call with its reply. -/
structure Exchange (I : Interface) where
  call : I.Call
  reply : I.Reply call

namespace Script

/-- The calls of a script on a device with their replies. -/
def exchanges (device : Device I σ) : Script I α → σ → List (Exchange I)
  | .done _, _ => []
  | .call c next, state =>
    let (reply, after) := device.answer c state
    ⟨c, reply⟩ :: (next reply).exchanges device after
  | .log _ rest, state => rest.exchanges device state

/-- A script can have a trace: with these replies it makes these calls, reports these events and
ends with this result. -/
inductive Yields : Script I α → List (Exchange I) → List Event → α → Prop
  | done {result : α} : Yields (.done result) [] [] result
  | call {c : I.Call} {reply : I.Reply c} {next : I.Reply c → Script I α}
      {exchanges : List (Exchange I)} {events : List Event} {result : α}
      (hnext : Yields (next reply) exchanges events result) :
      Yields (.call c next) (⟨c, reply⟩ :: exchanges) events result
  | log {event : Event} {rest : Script I α} {exchanges : List (Exchange I)} {events : List Event}
      {result : α} (hrest : Yields rest exchanges events result) :
      Yields (.log event rest) exchanges (event :: events) result

/-- The calls of a run are those of its exchanges. -/
theorem map_call_exchanges (device : Device I σ) (script : Script I α) (state : σ) :
    (script.exchanges device state).map Exchange.call = (script.run device state).calls := by
  induction script generalizing state with
  | done result => rfl
  | call c next ih => exact congrArg (c :: ·) (ih _ _)
  | log event rest ih => exact ih state

/-- What a run did is a trace of the script. -/
theorem yields_run (device : Device I σ) (script : Script I α) (state : σ) :
    script.Yields (script.exchanges device state) (script.run device state).events
      (script.run device state).result := by
  induction script generalizing state with
  | done result => exact .done
  | call c next ih => exact .call (ih _ _)
  | log event rest ih => exact .log (ih state)

namespace Yields

variable {exchanges : List (Exchange I)} {events : List Event} {result : α}

/-- The trace of a script that is done. -/
theorem of_done {ending : α} (h : Yields (.done ending : Script I α) exchanges events result) :
    exchanges = [] ∧ events = [] ∧ result = ending := by
  cases h
  exact ⟨rfl, rfl, rfl⟩

/-- The trace of a call and of what follows its reply. -/
theorem of_call {c : I.Call} {next : I.Reply c → Script I α}
    (h : Yields (.call c next) exchanges events result) :
    ∃ reply rest, exchanges = ⟨c, reply⟩ :: rest ∧ Yields (next reply) rest events result := by
  cases h with
  | call hnext => exact ⟨_, _, rfl, hnext⟩

/-- The trace of an event and of what follows. -/
theorem of_log {event : Event} {rest : Script I α}
    (h : Yields (.log event rest) exchanges events result) :
    ∃ more, events = event :: more ∧ Yields rest exchanges more result := by
  cases h with
  | log hrest => exact ⟨_, rfl, hrest⟩

/-- The trace of several events and of what follows. -/
theorem of_foldr_log {reported : List Event} {rest : Script I α}
    (h : (reported.foldr .log rest).Yields exchanges events result) :
    ∃ more, events = reported ++ more ∧ rest.Yields exchanges more result := by
  induction reported generalizing events with
  | nil => exact ⟨events, rfl, h⟩
  | cons event reported ih =>
    obtain ⟨more, rfl, hmore⟩ := of_log h
    obtain ⟨last, rfl, hrest⟩ := ih hmore
    exact ⟨last, rfl, hrest⟩

/-- The trace of two scripts in turn is made of a trace of each. -/
theorem of_bind {first : Script I β} {next : β → Script I α}
    (h : (first.bind next).Yields exchanges events result) :
    ∃ front back early late mid, exchanges = front ++ back ∧ events = early ++ late ∧
      first.Yields front early mid ∧ (next mid).Yields back late result := by
  induction first generalizing exchanges events with
  | done mid => exact ⟨[], exchanges, [], events, mid, rfl, rfl, .done, h⟩
  | call c reply ih =>
    obtain ⟨answer, rest, rfl, hrest⟩ := of_call h
    obtain ⟨front, back, early, late, mid, rfl, rfl, hfirst, hnext⟩ := ih answer hrest
    exact ⟨_, back, early, late, mid, rfl, rfl, .call hfirst, hnext⟩
  | log event rest ih =>
    obtain ⟨more, rfl, hrest⟩ := of_log h
    obtain ⟨front, back, early, late, mid, rfl, rfl, hfirst, hnext⟩ := ih hrest
    exact ⟨front, back, _, late, mid, rfl, rfl, .log hfirst, hnext⟩

end Yields

end Script

/-! ## Creations -/

namespace Exchange

/-- The stage that a creation returned. -/
def createdStage? : Exchange (graphics S P T) → Option S
  | ⟨.createStage _, created⟩ => Except.toOption created
  | _ => none

/-- The program that a creation returned. -/
def createdProgram? : Exchange (graphics S P T) → Option P
  | ⟨.createProgram, created⟩ => Except.toOption created
  | _ => none

/-- The text with which a creation failed. -/
def refusal? : Exchange (graphics S P T) → Option String
  | ⟨.createStage _, .error text⟩ | ⟨.createProgram, .error text⟩ => some text
  | _ => none

end Exchange

end ShaderPipeline.Gpu
