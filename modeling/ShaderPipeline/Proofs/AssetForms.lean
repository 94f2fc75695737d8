import ShaderPipeline.Proofs.Preparation

/-!
# The two forms of an asset

A program is stored as a stage pair or as a unified source, and neither form ever makes up for what
is missing of the other. `Resolves` lists the ways in which the resolution of a name can end,
together with the paths that are read on the way; every resolution ends in one of them
(`resolves_resolve`) and in no other (`Resolves.resolve_eq`), and it is decided by what the source
answers for the paths that are read (`Resolves.congr`).

A manager turns to its configuration, its cache and the given properties for a unified source only.
So once a file of the stage pair is there or cannot be read, nothing but the three paths of the pair
matters (`FormsApart.unmixed`), in particular not what stands under the path of the unified source.
This is said of managers whose caches compile in any way (`Config.prepareWith`), of which `compile`
is one.

An asset source is a function of the path. Sources whose answers change while a name is resolved are
not covered.
-/

namespace ShaderPipeline

open ShaderPipeline.Language

/-! ## Answers of a source -/

namespace AssetSource

variable {assets : AssetSource} {path : String}

/-- A path is answered, be it with a text or with its absence. -/
def Answers (assets : AssetSource) (path : String) : Prop := ∃ text, assets path = .ok text

/-- There is a text under a path. -/
def Present (assets : AssetSource) (path : String) : Prop := ∃ text, assets path = .ok (some text)

/-- There is nothing under a path. -/
def absent (assets : AssetSource) (path : String) : Bool :=
  match assets path with
  | .ok none => true
  | _ => false

/-- The text under a path, if there is one. -/
def text? (assets : AssetSource) (path : String) : Option String :=
  match assets path with
  | .ok text => text
  | .error _ => none

theorem absent_iff : assets.absent path = true ↔ assets path = .ok none := by
  unfold absent
  split
  · simp_all
  · rename_i hother
    exact iff_of_false Bool.false_ne_true hother

/-- An answer is the text under the path. -/
theorem Answers.eq_text? (h : assets.Answers path) : assets path = .ok (assets.text? path) := by
  obtain ⟨text, htext⟩ := h
  rw [text?, htext]

/-- What is answered is there or not. -/
theorem Answers.present_or_absent (h : assets.Answers path) :
    assets.Present path ∨ assets.absent path = true := by
  obtain ⟨_ | text, htext⟩ := h
  · exact .inr (absent_iff.2 htext)
  · exact .inl ⟨text, htext⟩

/-- What is there is not absent. -/
theorem Present.absent_eq_false (h : assets.Present path) : assets.absent path = false := by
  obtain ⟨text, htext⟩ := h
  rw [absent, htext]

/-- What is absent is answered. -/
theorem answers_of_absent (h : assets.absent path = true) : assets.Answers path :=
  ⟨none, absent_iff.1 h⟩

/-- A path that is answered does not fail. -/
theorem Answers.ne_error (h : assets.Answers path) (failure : ReadFailure) :
    assets path ≠ .error failure := by
  obtain ⟨text, htext⟩ := h
  rw [htext]
  exact nofun

/-- Of some paths all are answered, or there is a first one that fails. -/
theorem answers_or_fails (assets : AssetSource) (paths : List String) :
    (∀ path ∈ paths, assets.Answers path) ∨
      ∃ front path back failure, paths = front ++ path :: back ∧
        (∀ earlier ∈ front, assets.Answers earlier) ∧ assets path = .error failure := by
  induction paths with
  | nil => exact .inl (by simp)
  | cons first rest ih =>
    cases hfirst : assets first with
    | error failure => exact .inr ⟨[], first, rest, failure, rfl, by simp, hfirst⟩
    | ok text =>
      have hanswers : assets.Answers first := ⟨text, hfirst⟩
      rcases ih with hall | ⟨front, path, back, failure, rfl, hfront, hpath⟩
      · exact .inl (List.forall_mem_cons.2 ⟨hanswers, hall⟩)
      · exact .inr ⟨first :: front, path, back, failure, rfl,
          List.forall_mem_cons.2 ⟨hanswers, hfront⟩, hpath⟩

end AssetSource

namespace ProgramAsset

variable {assets : AssetSource} {name : String}

/-! ## Reading paths -/

/-- Paths that are all answered are all read. -/
theorem readAll_of_answers {paths : List String} (h : ∀ path ∈ paths, assets.Answers path) :
    readAll assets paths = (paths, .ok (paths.map fun path => (path, assets.text? path))) := by
  induction paths with
  | nil => rfl
  | cons first rest ih =>
    obtain ⟨hfirst, hrest⟩ := List.forall_mem_cons.1 h
    simp only [readAll, hfirst.eq_text?, ih hrest, Except.map, List.map_cons]

/-- Reading ends with the first path that fails. -/
theorem readAll_of_fails {front back : List String} {path : String} {failure : ReadFailure}
    (hfront : ∀ earlier ∈ front, assets.Answers earlier) (hpath : assets path = .error failure) :
    readAll assets (front ++ path :: back) =
      (front ++ [path], .error (.unreadable path failure)) := by
  induction front with
  | nil => simp only [List.nil_append, readAll, hpath]
  | cons first front ih =>
    obtain ⟨hfirst, hrest⟩ := List.forall_mem_cons.1 hfront
    simp only [List.cons_append, readAll, hfirst.eq_text?, ih hrest, Except.map]

/-- The unified source is no file of the stage pair, and the files of the pair are different. -/
theorem nodup_paths (name : String) : (pairPaths name ++ [unifiedPath name]).Nodup := by
  have hsame (a b : String) (h : a ≠ b) : name ++ a ≠ name ++ b := by
    intro heq
    apply h
    rw [← String.toList_inj, String.toList_append, String.toList_append] at heq
    exact String.toList_inj.1 (List.append_cancel_left heq)
  simp only [pairPaths, vertexPath, fragmentPath, slotsPath, unifiedPath, List.cons_append,
    List.nil_append, List.nodup_cons, List.mem_cons, List.not_mem_nil, or_false, not_or,
    List.nodup_nil, and_true]
  exact ⟨⟨hsame _ _ (by decide), hsame _ _ (by decide), hsame _ _ (by decide)⟩,
    ⟨hsame _ _ (by decide), hsame _ _ (by decide)⟩, hsame _ _ (by decide), not_false⟩

/-! ## Ways to resolve a name -/

/-- How the resolution of a name ends, with the paths that are read. -/
inductive Resolves (assets : AssetSource) (name : String) :
    List String → Except AssetError ProgramAsset → Prop
  | unreadable {front back : List String} {path : String} {failure : ReadFailure}
      (hpaths : pairPaths name = front ++ path :: back)
      (hfront : ∀ earlier ∈ front, assets.Answers earlier) (hpath : assets path = .error failure) :
      Resolves assets name (front ++ [path]) (.error (.unreadable path failure))
  | stagePair {vertex fragment slots : String}
      (hvertex : assets (vertexPath name) = .ok (some vertex))
      (hfragment : assets (fragmentPath name) = .ok (some fragment))
      (hslots : assets (slotsPath name) = .ok (some slots)) :
      Resolves assets name (pairPaths name) (.ok (.stagePair vertex fragment slots))
  | incomplete (hanswers : ∀ path ∈ pairPaths name, assets.Answers path)
      (hpresent : ∃ path ∈ pairPaths name, assets.Present path)
      (habsent : ∃ path ∈ pairPaths name, assets.absent path = true) :
      Resolves assets name (pairPaths name)
        (.error (.incomplete name ((pairPaths name).filter assets.absent)))
  | unifiedUnreadable {failure : ReadFailure}
      (habsent : ∀ path ∈ pairPaths name, assets.absent path = true)
      (hunified : assets (unifiedPath name) = .error failure) :
      Resolves assets name (pairPaths name ++ [unifiedPath name])
        (.error (.unreadable (unifiedPath name) failure))
  | notFound (habsent : ∀ path ∈ pairPaths name, assets.absent path = true)
      (hunified : assets (unifiedPath name) = .ok none) :
      Resolves assets name (pairPaths name ++ [unifiedPath name]) (.error (.notFound name))
  | unified {source : String} (habsent : ∀ path ∈ pairPaths name, assets.absent path = true)
      (hunified : assets (unifiedPath name) = .ok (some source)) :
      Resolves assets name (pairPaths name ++ [unifiedPath name]) (.ok (.unified source))

/-- Without any file of the stage pair the unified source is looked for. -/
theorem resolve_of_absent (h : ∀ path ∈ pairPaths name, assets.absent path = true) :
    resolve assets name = resolveUnified assets name (pairPaths name) := by
  have hnone (path : String) (hpath : path ∈ pairPaths name) : assets.text? path = none := by
    rw [AssetSource.text?, AssetSource.absent_iff.1 (h path hpath)]
  have htexts : (pairPaths name).map assets.text? = [none, none, none] := by
    rw [List.map_congr_left hnone]
    rfl
  unfold resolve
  rw [readAll_of_answers fun path hpath => AssetSource.answers_of_absent (h path hpath)]
  simp only [List.map_map, Function.comp_def, htexts]

/-- Some files of the stage pair without the others are incomplete. -/
theorem resolve_of_mixed (hanswers : ∀ path ∈ pairPaths name, assets.Answers path)
    (hpresent : ∃ path ∈ pairPaths name, assets.Present path)
    (habsent : ∃ path ∈ pairPaths name, assets.absent path = true) :
    resolve assets name =
      ⟨.error (.incomplete name ((pairPaths name).filter assets.absent)), pairPaths name, []⟩ := by
  have hread := readAll_of_answers hanswers
  unfold resolve
  rw [hread]
  obtain ⟨⟨vertex, hvertex⟩, ⟨fragment, hfragment⟩, ⟨slots, hslots⟩⟩ :
      assets.Answers (vertexPath name) ∧ assets.Answers (fragmentPath name) ∧
        assets.Answers (slotsPath name) := by
    simpa [pairPaths] using hanswers
  cases vertex <;> cases fragment <;> cases slots <;>
    simp_all [pairPaths, AssetSource.text?, AssetSource.absent, AssetSource.Present]

/-- Every resolution can end in one of the ways. -/
theorem exists_resolves (assets : AssetSource) (name : String) :
    ∃ reads outcome, Resolves assets name reads outcome := by
  rcases assets.answers_or_fails (pairPaths name) with
    hanswers | ⟨front, path, back, failure, hpaths, hfront, hpath⟩
  · by_cases hnone : ∀ path ∈ pairPaths name, assets.absent path = true
    · cases hunified : assets (unifiedPath name) with
      | error failure => exact ⟨_, _, .unifiedUnreadable hnone hunified⟩
      | ok source =>
        cases source with
        | none => exact ⟨_, _, .notFound hnone hunified⟩
        | some source => exact ⟨_, _, .unified hnone hunified⟩
    · by_cases hsome : ∃ path ∈ pairPaths name, assets.absent path = true
      · have hpresent : ∃ path ∈ pairPaths name, assets.Present path := by
          simp only [Classical.not_forall] at hnone
          obtain ⟨path, hmem, hthere⟩ := hnone
          exact ⟨path, hmem, (hanswers path hmem).present_or_absent.resolve_right hthere⟩
        exact ⟨_, _, .incomplete hanswers hpresent hsome⟩
      · have hall : ∀ path ∈ pairPaths name, assets.Present path := fun path hmem =>
          (hanswers path hmem).present_or_absent.resolve_right fun habsent =>
            hsome ⟨path, hmem, habsent⟩
        obtain ⟨vertex, hvertex⟩ := hall (vertexPath name) (by simp [pairPaths])
        obtain ⟨fragment, hfragment⟩ := hall (fragmentPath name) (by simp [pairPaths])
        obtain ⟨slots, hslots⟩ := hall (slotsPath name) (by simp [pairPaths])
        exact ⟨_, _, .stagePair hvertex hfragment hslots⟩
  · exact ⟨_, _, .unreadable hpaths hfront hpath⟩

/-- What is reported of a resolution: the form that was found, if any. -/
def foundEvents (name : String) : Except AssetError ProgramAsset → List Event
  | .ok (.stagePair _ _ _) => [.resolvedPair name]
  | .ok (.unified _) => [.resolvedUnified name]
  | .error _ => []

/-- A resolution that can end in one way ends in it. -/
theorem Resolves.resolve_eq {reads : List String} {outcome : Except AssetError ProgramAsset}
    (h : Resolves assets name reads outcome) :
    resolve assets name = ⟨outcome, reads, foundEvents name outcome⟩ := by
  cases h with
  | unreadable hpaths hfront hpath =>
    unfold resolve
    rw [hpaths, readAll_of_fails hfront hpath]
    rfl
  | stagePair hvertex hfragment hslots =>
    have hanswers : ∀ path ∈ pairPaths name, assets.Answers path := by
      simp [pairPaths, AssetSource.Answers, hvertex, hfragment, hslots]
    unfold resolve
    rw [readAll_of_answers hanswers]
    simp [pairPaths, AssetSource.text?, hvertex, hfragment, hslots, foundEvents]
  | incomplete hanswers hpresent habsent => exact resolve_of_mixed hanswers hpresent habsent
  | unifiedUnreadable habsent hunified =>
    rw [resolve_of_absent habsent]
    simp only [resolveUnified, hunified, foundEvents]
  | notFound habsent hunified =>
    rw [resolve_of_absent habsent]
    simp only [resolveUnified, hunified, foundEvents]
  | unified habsent hunified =>
    rw [resolve_of_absent habsent]
    simp only [resolveUnified, hunified, foundEvents]

/-- A resolution ends in one of the ways. -/
theorem resolves_resolve (assets : AssetSource) (name : String) :
    Resolves assets name (resolve assets name).reads (resolve assets name).outcome := by
  obtain ⟨reads, outcome, h⟩ := exists_resolves assets name
  rwa [h.resolve_eq]

/-- Only the paths that are read decide how a resolution ends. -/
theorem Resolves.congr {reads : List String} {outcome : Except AssetError ProgramAsset}
    (h : Resolves assets name reads outcome) {other : AssetSource}
    (hsame : ∀ path ∈ reads, other path = assets path) : Resolves other name reads outcome := by
  have hanswers (path : String) (hmem : path ∈ reads) (hanswer : assets.Answers path) :
      other.Answers path := by
    rwa [AssetSource.Answers, hsame path hmem]
  have habsent (path : String) (hmem : path ∈ reads) : other.absent path = assets.absent path := by
    rw [AssetSource.absent, AssetSource.absent, hsame path hmem]
  cases h with
  | unreadable hpaths hfront hpath =>
    refine .unreadable hpaths (fun earlier hmem => ?_) ((hsame _ (by simp)).trans hpath)
    exact hanswers earlier (List.mem_append_left _ hmem) (hfront earlier hmem)
  | stagePair hvertex hfragment hslots =>
    exact .stagePair ((hsame _ (by simp [pairPaths])).trans hvertex)
      ((hsame _ (by simp [pairPaths])).trans hfragment)
      ((hsame _ (by simp [pairPaths])).trans hslots)
  | incomplete hall hpresent hsome =>
    rw [← List.filter_congr habsent]
    obtain ⟨path, hmem, text, htext⟩ := hpresent
    obtain ⟨missing, hmissing, hnone⟩ := hsome
    exact .incomplete (fun path hmem => hanswers path hmem (hall path hmem))
      ⟨path, hmem, text, (hsame path hmem).trans htext⟩
      ⟨missing, hmissing, (habsent missing hmissing).trans hnone⟩
  | unifiedUnreadable hnone hunified =>
    refine .unifiedUnreadable (fun path hmem => ?_) ((hsame _ (by simp)).trans hunified)
    exact (habsent path (List.mem_append_left _ hmem)).trans (hnone path hmem)
  | notFound hnone hunified =>
    refine .notFound (fun path hmem => ?_) ((hsame _ (by simp)).trans hunified)
    exact (habsent path (List.mem_append_left _ hmem)).trans (hnone path hmem)
  | unified hnone hunified =>
    refine .unified (fun path hmem => ?_) ((hsame _ (by simp)).trans hunified)
    exact (habsent path (List.mem_append_left _ hmem)).trans (hnone path hmem)

/-- The reading ends with the stage pair if one of its files is there or cannot be read, and goes on
to the unified source otherwise. -/
theorem Resolves.reads_cases {reads : List String} {outcome : Except AssetError ProgramAsset}
    (h : Resolves assets name reads outcome) :
    (reads <+: pairPaths name ∧ (∃ path ∈ pairPaths name, assets.absent path = false) ∧
        ∀ source, outcome ≠ .ok (.unified source)) ∨
      (reads = pairPaths name ++ [unifiedPath name] ∧
        ∀ path ∈ pairPaths name, assets.absent path = true) := by
  cases h with
  | @unreadable front back path failure hpaths hfront hpath =>
    refine .inl ⟨⟨back, by simp [hpaths]⟩, ⟨path, by simp [hpaths], ?_⟩, by simp⟩
    rw [AssetSource.absent, hpath]
  | stagePair hvertex hfragment hslots =>
    exact .inl ⟨List.prefix_refl _, ⟨vertexPath name, by simp [pairPaths],
      AssetSource.Present.absent_eq_false ⟨_, hvertex⟩⟩, by simp⟩
  | incomplete hanswers hpresent habsent =>
    obtain ⟨path, hmem, hthere⟩ := hpresent
    exact .inl ⟨List.prefix_refl _, ⟨path, hmem, hthere.absent_eq_false⟩, by simp⟩
  | unifiedUnreadable habsent hunified => exact .inr ⟨rfl, habsent⟩
  | notFound habsent hunified => exact .inr ⟨rfl, habsent⟩
  | unified habsent hunified => exact .inr ⟨rfl, habsent⟩

/-- Either all paths that are read are answered, the stage pair among them, or the last one fails
and is the first to do so. -/
theorem Resolves.answers_cases {reads : List String} {outcome : Except AssetError ProgramAsset}
    (h : Resolves assets name reads outcome) :
    (pairPaths name <+: reads ∧ (∀ path ∈ reads, assets.Answers path) ∧
        ∀ path failure, outcome ≠ .error (.unreadable path failure)) ∨
      ∃ front path failure, reads = front ++ [path] ∧ (∀ earlier ∈ front, assets.Answers earlier) ∧
        assets path = .error failure ∧ outcome = .error (.unreadable path failure) := by
  have hfound (habsent : ∀ path ∈ pairPaths name, assets.absent path = true)
      (hunified : assets.Answers (unifiedPath name)) :
      ∀ path ∈ pairPaths name ++ [unifiedPath name], assets.Answers path := by
    intro path hmem
    rcases List.mem_append.1 hmem with hpair | hlast
    · exact AssetSource.answers_of_absent (habsent path hpair)
    · rwa [List.mem_singleton.1 hlast]
  cases h with
  | unreadable hpaths hfront hpath => exact .inr ⟨_, _, _, rfl, hfront, hpath, rfl⟩
  | stagePair hvertex hfragment hslots =>
    refine .inl ⟨List.prefix_refl _, ?_, by simp⟩
    simp [pairPaths, AssetSource.Answers, hvertex, hfragment, hslots]
  | incomplete hanswers hpresent habsent => exact .inl ⟨List.prefix_refl _, hanswers, by simp⟩
  | unifiedUnreadable habsent hunified =>
    exact .inr ⟨_, _, _, rfl,
      fun path hmem => AssetSource.answers_of_absent (habsent path hmem), hunified, rfl⟩
  | notFound habsent hunified =>
    exact .inl ⟨List.prefix_append _ _, hfound habsent ⟨_, hunified⟩, by simp⟩
  | unified habsent hunified =>
    exact .inl ⟨List.prefix_append _ _, hfound habsent ⟨_, hunified⟩, by simp⟩

/-- Once a file of the stage pair is there or cannot be read, sources that agree on the pair resolve
to the same, which is no unified source. -/
theorem resolve_eq_of_not_absent {path : String} (hmem : path ∈ pairPaths name)
    (hthere : assets.absent path = false) {other : AssetSource}
    (hsame : ∀ path ∈ pairPaths name, other path = assets path) :
    resolve other name = resolve assets name ∧
      ∀ source, (resolve assets name).outcome ≠ .ok (.unified source) := by
  have hways := resolves_resolve assets name
  rcases hways.reads_cases with ⟨hleads, -, hpair⟩ | ⟨-, hnone⟩
  · have hother := hways.congr fun path hread => hsame path (hleads.subset hread)
    exact ⟨hother.resolve_eq.trans hways.resolve_eq.symm, hpair⟩
  · rw [hnone path hmem] at hthere
    cases hthere

end ProgramAsset

/-! ## Managers -/

namespace Config

/-- What is no unified source is prepared without configuration, cache and properties. -/
theorem prepareWith_of_not_unified {assets : AssetSource} {name : String}
    (h : ∀ source, (ProgramAsset.resolve assets name).outcome ≠ .ok (.unified source))
    (config : Config) (compilation : String → Compilation) (cache : Cache)
    (properties : PropertyContext) :
    (config.prepareWith compilation cache assets name properties).outcome =
        standard.outcomeOf .empty name .empty (ProgramAsset.resolve assets name).outcome ∧
      (config.prepareWith compilation cache assets name properties).cache = cache := by
  unfold prepareWith
  dsimp only
  generalize (ProgramAsset.resolve assets name).outcome = outcome at h ⊢
  rcases outcome with e | ⟨vertex, fragment, slots⟩ | source
  · exact ⟨rfl, rfl⟩
  · exact ⟨rfl, rfl⟩
  · exact absurd rfl (h source)

end Config

namespace ProgramAsset

/-! ## The forms do not mix -/

/-- What is expected of the resolution of a name. -/
structure FormsApart (assets : AssetSource) (name : String) (resolved : Resolution) : Prop where
  /-- Paths are read in order, the files of the stage pair first. -/
  in_order : resolved.reads <+: pairPaths name ++ [unifiedPath name]
  /-- No path is read twice. -/
  reads_nodup : resolved.reads.Nodup
  /-- A path that cannot be read is the last one, the first to fail, and decides the outcome. -/
  stops : ∀ path ∈ resolved.reads, ∀ failure, assets path = .error failure →
    (∃ front, resolved.reads = front ++ [path] ∧ ∀ earlier ∈ front, assets.Answers earlier) ∧
      resolved.outcome = .error (.unreadable path failure)
  /-- Nothing is called unreadable that was not read and failed. -/
  unreadable : ∀ path failure, resolved.outcome = .error (.unreadable path failure) →
    path ∈ resolved.reads ∧ assets path = .error failure
  /-- Unless a path cannot be read, the whole stage pair is read. -/
  goes_on : (∀ path ∈ resolved.reads, assets.Answers path) → pairPaths name <+: resolved.reads
  /-- The unified source is read exactly if no file of the stage pair is there. -/
  unified_read_iff : unifiedPath name ∈ resolved.reads ↔
    ∀ path ∈ pairPaths name, assets.absent path = true
  /-- A stage pair is incomplete exactly if no read fails and some of its files are there and some
  are absent; the absent ones are named in order. -/
  incomplete_iff : ∀ other missing, resolved.outcome = .error (.incomplete other missing) ↔
    (∀ path ∈ pairPaths name, assets.Answers path) ∧
      (∃ path ∈ pairPaths name, assets.Present path) ∧
      (∃ path ∈ pairPaths name, assets.absent path = true) ∧
      other = name ∧ missing = (pairPaths name).filter assets.absent
  /-- A stage pair is found exactly if all its files are there. -/
  stagePair_iff : ∀ vertex fragment slots,
    resolved.outcome = .ok (.stagePair vertex fragment slots) ↔
      assets (vertexPath name) = .ok (some vertex) ∧
        assets (fragmentPath name) = .ok (some fragment) ∧
        assets (slotsPath name) = .ok (some slots)
  /-- A unified source is found exactly if it is there and no file of the stage pair is. -/
  unified_iff : ∀ source, resolved.outcome = .ok (.unified source) ↔
    (∀ path ∈ pairPaths name, assets.absent path = true) ∧
      assets (unifiedPath name) = .ok (some source)
  /-- What was not read makes no difference. -/
  alone : ∀ other : AssetSource, (∀ path ∈ resolved.reads, other path = assets path) →
    resolve other name = resolved
  /-- Managers prepare with a cache that compiles in the usual way. -/
  usual : ∀ (config : Config) (cache : Cache) (properties : PropertyContext),
    config.prepareWith (fun source => .answer (compile source)) cache assets name properties =
      config.prepare cache assets name properties
  /-- Once a file of the stage pair is there or cannot be read, any two managers with any caches and
  properties prepare the same from two sources that agree on the pair, and neither cache changes. -/
  unmixed : (∃ path ∈ pairPaths name, assets.absent path = false) →
    ∀ other : AssetSource, (∀ path ∈ pairPaths name, other path = assets path) →
      ∀ (config config' : Config) (compilation compilation' : String → Compilation)
        (cache cache' : Cache) (properties properties' : PropertyContext),
        (config.prepareWith compilation cache assets name properties).outcome =
            (config'.prepareWith compilation' cache' other name properties').outcome ∧
          (config.prepareWith compilation cache assets name properties).cache = cache ∧
          (config'.prepareWith compilation' cache' other name properties').cache = cache'

/-- The stage pair wins, and the two forms of an asset never mix. -/
theorem resolve_formsApart (assets : AssetSource) (name : String) :
    FormsApart assets name (resolve assets name) := by
  have hways := resolves_resolve assets name
  have hreads := hways.reads_cases
  have hanswers := hways.answers_cases
  have hleads : (resolve assets name).reads <+: pairPaths name ++ [unifiedPath name] := by
    rcases hreads with ⟨hpair, -⟩ | ⟨hall, -⟩
    · exact hpair.trans (List.prefix_append _ _)
    · exact hall ▸ List.prefix_refl _
  constructor
  case in_order => exact hleads
  case reads_nodup => exact (nodup_paths name).sublist hleads.sublist
  case stops =>
    intro path hmem failure hfails
    rcases hanswers with ⟨-, hall, -⟩ | ⟨front, last, reason, hsplit, hfront, hlast, houtcome⟩
    · exact absurd hfails ((hall path hmem).ne_error failure)
    · rw [hsplit] at hmem
      rcases List.mem_append.1 hmem with hearlier | hsame
      · exact absurd hfails ((hfront path hearlier).ne_error failure)
      · obtain rfl := List.mem_singleton.1 hsame
        obtain rfl := Except.error.inj (hlast.symm.trans hfails)
        exact ⟨⟨front, hsplit, hfront⟩, houtcome⟩
  case unreadable =>
    intro path failure hunreadable
    rcases hanswers with ⟨-, -, hnot⟩ | ⟨front, last, reason, hsplit, -, hlast, houtcome⟩
    · exact absurd hunreadable (hnot path failure)
    · obtain ⟨rfl, rfl⟩ := by simpa using houtcome.symm.trans hunreadable
      exact ⟨by simp [hsplit], hlast⟩
  case goes_on =>
    intro hall
    rcases hanswers with ⟨hpair, -⟩ | ⟨front, last, reason, hsplit, -, hlast, -⟩
    · exact hpair
    · exact absurd hlast ((hall last (by simp [hsplit])).ne_error reason)
  case unified_read_iff =>
    constructor
    · intro hmem
      rcases hreads with ⟨hpair, -⟩ | ⟨-, hnone⟩
      · have hdifferent := (List.nodup_append.1 (nodup_paths name)).2.2
        exact absurd rfl (hdifferent _ (hpair.subset hmem) _ (List.mem_singleton_self _))
      · exact hnone
    · intro hnone
      rcases hreads with ⟨-, ⟨path, hmem, hthere⟩, -⟩ | ⟨hall, -⟩
      · rw [hnone path hmem] at hthere
        cases hthere
      · simp [hall]
  case incomplete_iff =>
    intro other missing
    constructor
    · intro hincomplete
      generalize (resolve assets name).reads = reads at hways
      rw [hincomplete] at hways
      cases hways with
      | incomplete hall hpresent habsent => exact ⟨hall, hpresent, habsent, rfl, rfl⟩
    · rintro ⟨hall, hpresent, habsent, rfl, rfl⟩
      rw [(Resolves.incomplete hall hpresent habsent).resolve_eq]
  case stagePair_iff =>
    intro vertex fragment slots
    constructor
    · intro hfound
      generalize (resolve assets name).reads = reads at hways
      rw [hfound] at hways
      cases hways with
      | stagePair hvertex hfragment hslots => exact ⟨hvertex, hfragment, hslots⟩
    · rintro ⟨hvertex, hfragment, hslots⟩
      rw [(Resolves.stagePair hvertex hfragment hslots).resolve_eq]
  case unified_iff =>
    intro source
    constructor
    · intro hfound
      generalize (resolve assets name).reads = reads at hways
      rw [hfound] at hways
      cases hways with
      | unified hnone hunified => exact ⟨hnone, hunified⟩
    · rintro ⟨hnone, hunified⟩
      rw [(Resolves.unified hnone hunified).resolve_eq]
  case alone =>
    intro other hsame
    rw [(hways.congr hsame).resolve_eq, ← hways.resolve_eq]
  case usual => exact fun _ _ _ => rfl
  case unmixed =>
    intro ⟨path, hmem, hthere⟩ other hsame config config' compilation compilation' cache cache'
      properties properties'
    obtain ⟨hother, hpair⟩ := resolve_eq_of_not_absent hmem hthere hsame
    obtain ⟨houtcome, hcache⟩ :=
      Config.prepareWith_of_not_unified hpair config compilation cache properties
    rw [← hother] at hpair
    obtain ⟨houtcome', hcache'⟩ :=
      Config.prepareWith_of_not_unified hpair config' compilation' cache' properties'
    exact ⟨by rw [houtcome, houtcome', hother], hcache, hcache'⟩

end ProgramAsset

end ShaderPipeline
