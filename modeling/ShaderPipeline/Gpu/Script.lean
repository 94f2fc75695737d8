import ShaderPipeline.Event

/-!
# Scripts

Work that talks to a device: a tree of calls, each followed by what happens for every reply, with
events in between. A script says nothing about the device. Running it on a device, which may keep a
state and answer as it likes, gives the result, all calls in order, all events in order and the
state of the device afterwards.
-/

namespace ShaderPipeline.Gpu

/-- The calls that a device understands and the replies that they get. -/
structure Interface where
  Call : Type
  Reply : Call → Type

/-- Work that makes calls of an interface and ends with a result. -/
inductive Script (I : Interface) (α : Type) : Type where
  | done (result : α)
  | call (call : I.Call) (next : I.Reply call → Script I α)
  | log (event : Event) (next : Script I α)

/-- Something that answers the calls of an interface. -/
structure Device (I : Interface) (σ : Type) where
  answer : (call : I.Call) → σ → I.Reply call × σ

/-- What a script did on a device. -/
structure Run (I : Interface) (σ α : Type) where
  result : α
  calls : List I.Call
  events : List Event
  state : σ

namespace Script

variable {I J : Interface} {α β σ : Type}

/-- One script after another, which may use the result of the first. -/
def bind : Script I α → (α → Script I β) → Script I β
  | .done result, next => next result
  | .call c reply, next => .call c fun r => (reply r).bind next
  | .log event rest, next => .log event (rest.bind next)

instance : Monad (Script I) where
  pure := .done
  bind := bind

/-- A single call, whose reply is the result. -/
def send (c : I.Call) : Script I (I.Reply c) := .call c .done

/-- A single event. -/
def report (event : Event) : Script I Unit := .log event (.done ())

/-- Runs a script on a device from a state on. -/
def run (device : Device I σ) : Script I α → σ → Run I σ α
  | .done result, state => ⟨result, [], [], state⟩
  | .call c next, state =>
    let (reply, after) := device.answer c state
    let rest := (next reply).run device after
    { rest with calls := c :: rest.calls }
  | .log event next, state =>
    let rest := next.run device state
    { rest with events := event :: rest.events }

/-- The script in which every call is carried out by a script of another interface. -/
def through (carry : (c : I.Call) → Script J (I.Reply c)) : Script I α → Script J α
  | .done result => .done result
  | .call c next => (carry c).bind fun reply => (next reply).through carry
  | .log event next => .log event (next.through carry)

/-- Running two scripts in turn is running the second where the first has ended. -/
theorem run_bind (device : Device I σ) (first : Script I α) (next : α → Script I β) (state : σ) :
    (first.bind next).run device state =
      let before := first.run device state
      let after := (next before.result).run device before.state
      ⟨after.result, before.calls ++ after.calls, before.events ++ after.events, after.state⟩ := by
  induction first generalizing state with
  | done result => simp [bind, run]
  | call c reply ih => simp [bind, run, ih]
  | log event rest ih => simp [bind, run, ih]

end Script

end ShaderPipeline.Gpu
