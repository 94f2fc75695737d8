import Mathlib.Data.List.Dedup
import Mathlib.Data.List.Nodup
import ShaderPipeline.Proofs.Glsl.DeclaredOnly

/-!
# Property contexts as maps

A property context is determined by the values of its names (`ext_get?`). Merging is therefore an
associative operation in which the overriding context wins and for which the empty context is
neutral, and lists of entries are collected so that appending them is merging what they give
(`ofList_append`). A context that is built in several ways and merged from others is the one that
is collected from all that was ever supplied, in order (`History.context_eq`), and every context is
built in some way (`History.exists_context_eq`).

The entries of a context are in the order of their names. That is the order of code points, and
since UTF-8 keeps this order (`octets_lt`), it is the order in which the octets of the names are
compared as well. Numbers that are not equal to themselves as numbers are values like all others
here: values are compared for identity.
-/

namespace ShaderPipeline

/-! ## The order of texts in UTF-8 -/

/-- The octets of a text in UTF-8. -/
def octets (text : String) : List UInt8 := text.toUTF8.data.toList

/-- The octets of a text are those of its characters. -/
theorem octets_eq (text : String) :
    octets text = text.toList.flatMap String.utf8EncodeChar := by
  have hbytes := String.toByteArray_ofList (l := text.toList)
  rw [String.ofList_toList] at hbytes
  rw [octets, String.toUTF8, hbytes, List.utf8Encode, List.data_toByteArray]

/-- The octets of a smaller character are smaller, whatever is behind them. -/
theorem utf8EncodeChar_lt {c d : Char} (h : c < d) (u v : List UInt8) :
    String.utf8EncodeChar c ++ u < String.utf8EncodeChar d ++ v := by
  have hlt : c.val.toNat < d.val.toNat := h
  have hvalid : d.val.toNat < 0x110000 := by
    rcases d.valid with hlow | hhigh
    · exact Nat.lt_trans hlow (by decide)
    · exact hhigh.2
  generalize hc : c.val.toNat = m at hlt
  generalize hd : d.val.toNat = n at hlt hvalid
  unfold String.utf8EncodeChar
  simp only [hc, hd]
  -- Octets of one length are digits to the base 64; those of different lengths differ in the first.
  split <;> [skip; split <;> [skip; split]] <;> (split <;> [skip; split <;> [skip; split]])
  all_goals
    simp (disch := omega) only [List.cons_append, List.nil_append, List.cons_lt_cons_iff,
      UInt8.lt_iff_toNat_lt, ← UInt8.toNat_inj, UInt8.toNat_ofNat', Nat.mod_eq_of_lt]
    omega

/-- A smaller text has smaller octets. -/
theorem octets_lt {a b : String} (h : a < b) : octets a < octets b := by
  rw [octets_eq, octets_eq]
  have hlex : List.Lex (· < ·) a.toList b.toList := h
  generalize a.toList = left at hlex
  generalize b.toList = right at hlex
  induction hlex with
  | nil =>
    rename_i c rest
    rw [List.flatMap_cons]
    cases henc : String.utf8EncodeChar c with
    | nil => exact absurd henc String.utf8EncodeChar_ne_nil
    | cons first others => exact List.nil_lt_cons first _
  | rel hlt => exact utf8EncodeChar_lt hlt _ _
  | cons _ ih => exact List.append_left_lt ih

namespace PropertyContext

/-! ## Merging -/

variable {a b c : PropertyContext} {entries entries' : List PropertyEntry} {name : String}
  {value : PropertyValue}

/-- A context is determined by the values of the names. -/
theorem ext_get? (h : ∀ name, a.get? name = b.get? name) : a = b := by
  have hmem (entry : PropertyEntry) : entry ∈ a.toList ↔ entry ∈ b.toList := by
    rw [← get?_eq_some_iff, ← get?_eq_some_iff, h]
  have hperm : a.entries.Perm b.entries :=
    (List.perm_ext_iff_of_nodup a.nodup_names.of_map b.nodup_names.of_map).2 hmem
  have hentries : a.entries = b.entries := by
    refine List.Perm.eq_of_pairwise (fun x y _ _ hxy hyx => ?_) a.sorted b.sorted hperm
    exact absurd hyx (String.lt_asymm hxy)
  cases a
  cases b
  cases hentries
  rfl

/-- In merged contexts a name of the overriding one has its value there. -/
theorem get?_mergedWith_ite (a b : PropertyContext) (name : String) :
    (a.mergedWith b).get? name = if b.contains name then b.get? name else a.get? name := by
  rw [get?_mergedWith, contains]
  cases b.get? name <;> rfl

/-- Merging a context over the empty one gives the context. -/
theorem empty_mergedWith (a : PropertyContext) : empty.mergedWith a = a := by
  apply ext_get?
  intro name
  rw [get?_mergedWith]
  exact Option.or_none

/-- Contexts that are merged in any grouping are merged. -/
theorem mergedWith_assoc (a b c : PropertyContext) :
    (a.mergedWith b).mergedWith c = a.mergedWith (b.mergedWith c) := by
  apply ext_get?
  intro name
  simp only [get?_mergedWith, Option.or_assoc]

/-- The value of a name in a collected list is the last one. -/
theorem get?_ofList (entries : List PropertyEntry) (name : String) :
    (ofList entries).get? name = entries.reverse.lookup name := by
  rw [ofList, get?_supplyAll]
  exact Option.or_none

/-- A list that is collected in two parts is merged from them. -/
theorem ofList_append (entries entries' : List PropertyEntry) :
    ofList (entries ++ entries') = (ofList entries).mergedWith (ofList entries') := by
  apply ext_get?
  intro name
  rw [get?_mergedWith, get?_ofList, get?_ofList, get?_ofList, List.reverse_append,
    List.lookup_append]

/-- A name that is in no later entry has the value of its last one. -/
theorem get?_ofList_last {front back : List PropertyEntry} (h : ∀ entry ∈ back, entry.1 ≠ name) :
    (ofList (front ++ (name, value) :: back)).get? name = some value := by
  have hback : back.reverse.lookup name = none := by
    rw [List.lookup_eq_none_iff]
    intro entry hmem
    exact bne_iff_ne.2 (h entry (List.mem_reverse.1 hmem)).symm
  rw [get?_ofList, List.reverse_append, List.reverse_cons, List.append_assoc, List.lookup_append,
    hback, Option.none_or]
  simp

/-- Exactly the names of the entries of a list are contained in what is collected. -/
theorem contains_ofList_iff :
    (ofList entries).contains name = true ↔ name ∈ entries.map Prod.fst := by
  rw [contains, get?_ofList, Option.isSome_iff_ne_none, ne_eq, List.lookup_eq_none_iff]
  simp

/-- The entries of a name decide about its value. -/
theorem get?_ofList_filter (entries : List PropertyEntry) (name : String) :
    (ofList (entries.filter (·.1 = name))).get? name = (ofList entries).get? name := by
  have hlookup (found : List PropertyEntry) :
      (found.filter (·.1 = name)).lookup name = found.lookup name := by
    induction found with
    | nil => rfl
    | cons entry rest ih =>
      by_cases hname : entry.1 = name
      · rw [List.filter_cons_of_pos (by simpa using hname), PropertyEntry.lookup_cons,
          PropertyEntry.lookup_cons, ih]
      · rw [List.filter_cons_of_neg (by simpa using hname), PropertyEntry.lookup_cons, ih,
          if_neg (Ne.symm hname)]
  rw [get?_ofList, get?_ofList, ← List.filter_reverse, hlookup]

/-- The same is collected from lists that have the same entries of each name in the same order. -/
theorem ofList_congr
    (h : ∀ name, entries.filter (·.1 = name) = entries'.filter (·.1 = name)) :
    ofList entries = ofList entries' := by
  apply ext_get?
  intro name
  rw [← get?_ofList_filter, h, get?_ofList_filter]

/-- Neighbours with different names may change places. -/
theorem ofList_swap {front back : List PropertyEntry} {x y : PropertyEntry} (h : x.1 ≠ y.1) :
    ofList (front ++ x :: y :: back) = ofList (front ++ y :: x :: back) := by
  refine ofList_congr fun name => ?_
  rw [List.filter_append, List.filter_append]
  congr 1
  by_cases hx : x.1 = name
  · have hy : y.1 ≠ name := fun hy => h (hx.trans hy.symm)
    simp [hx, hy]
  · simp [List.filter_cons, hx]

/-! ## Names in order -/

/-- The entries are in the order of the octets of their names. -/
theorem toList_ascending (a : PropertyContext) :
    a.toList.Pairwise fun x y => octets x.1 < octets y.1 :=
  a.sorted.imp octets_lt

/-- The names in the list of entries are those that are contained. -/
theorem mem_names_iff : name ∈ a.toList.map Prod.fst ↔ a.contains name = true := by
  rw [contains, Option.isSome_iff_exists]
  simp only [get?_eq_some_iff]
  simp

/-- There are as many entries as there are different names in a collected list. -/
theorem size_ofList (entries : List PropertyEntry) :
    (ofList entries).size = (entries.map Prod.fst).dedup.length := by
  have hmem (name : String) : name ∈ (ofList entries).toList.map Prod.fst ↔
      name ∈ (entries.map Prod.fst).dedup := by
    rw [mem_names_iff, contains_ofList_iff, List.mem_dedup]
  have hnodup := (ofList entries).nodup_names
  have hperm := (List.perm_ext_iff_of_nodup hnodup (List.nodup_dedup _)).2 hmem
  rw [← hperm.length_eq, List.length_map]
  rfl

end PropertyContext

/-! ## Histories -/

/-- How a context is built: values are supplied, one by one or those of a viewport, contexts are
merged and lists are collected. -/
inductive History where
  | empty
  | supply (before : History) (name : String) (value : PropertyValue)
  | viewport (before : History) (viewport : Viewport)
  | merged (context overrides : History)
  | collected (entries : List PropertyEntry)

namespace History

open PropertyContext

/-- The context that is built. -/
def context : History → PropertyContext
  | empty => .empty
  | supply before name value => before.context.supply name value
  | viewport before sizes => before.context.supplyViewport sizes
  | merged context overrides => context.context.mergedWith overrides.context
  | collected entries => .ofList entries

/-- All that is supplied, in order; what is merged with a context is supplied after it. -/
def supplied : History → List PropertyEntry
  | empty => []
  | supply before name value => before.supplied ++ [(name, value)]
  | viewport before sizes => before.supplied ++ sizes.properties
  | merged context overrides => context.supplied ++ overrides.supplied
  | collected entries => entries

/-- A context is the one that is collected from all that was supplied. -/
theorem context_eq (history : History) : history.context = ofList history.supplied := by
  induction history with
  | empty => rfl
  | supply before name value ih =>
    rw [context, supplied, ofList, supplyAll, List.foldl_append, ih]
    rfl
  | viewport before sizes ih =>
    rw [context, supplied, ofList, supplyAll, List.foldl_append, ih]
    rfl
  | merged before overrides ih ih' => rw [context, supplied, ofList_append, ih, ih']
  | collected entries => rfl

/-- Every context has a history. -/
theorem exists_context_eq (context : PropertyContext) :
    ∃ history : History, history.context = context :=
  ⟨.collected context.toList, empty_mergedWith context⟩

/-- What is expected of contexts that are built and merged. -/
structure RightBiased (a b c : History) : Prop where
  /-- Every context has a history, so what is said of histories is said of all contexts. -/
  complete : ∀ context : PropertyContext, ∃ history : History, history.context = context
  /-- In merged contexts the overriding one wins. -/
  lookup : ∀ name, (a.context.mergedWith b.context).get? name =
    if b.context.contains name then b.context.get? name else a.context.get? name
  /-- The grouping of merged contexts makes no difference. -/
  assoc : (a.context.mergedWith b.context).mergedWith c.context =
    a.context.mergedWith (b.context.mergedWith c.context)
  /-- The empty context is neutral on the left. -/
  empty_left : PropertyContext.empty.mergedWith a.context = a.context
  /-- The empty context is neutral on the right. -/
  empty_right : a.context.mergedWith .empty = a.context
  /-- A context is collected from all that was supplied, whatever the steps were. -/
  flat : a.context = .ofList a.supplied
  /-- A list that is collected in two parts is merged from them. -/
  append : ∀ entries entries', ofList (entries ++ entries') =
    (ofList entries).mergedWith (ofList entries')
  /-- Of several entries of one name the last one wins. -/
  last : ∀ front name value back, (∀ entry ∈ back, entry.1 ≠ name) →
    (ofList (front ++ (name, value) :: back)).get? name = some value
  /-- Neighbours with different names may change places. -/
  swapped : ∀ front x y back, x.1 ≠ y.1 →
    ofList (front ++ x :: y :: back) = ofList (front ++ y :: x :: back)
  /-- Only the order of the entries of each single name counts. -/
  reordered : ∀ entries entries', (∀ name, entries.filter (·.1 = name) =
    entries'.filter (·.1 = name)) → ofList entries = ofList entries'
  /-- The entries are in the order of the octets of their names. -/
  ascending : a.context.toList.Pairwise fun x y => octets x.1 < octets y.1
  /-- No name has two entries. -/
  once : (a.context.toList.map Prod.fst).Nodup
  /-- The names of the entries are those that are contained. -/
  names : ∀ name, name ∈ a.context.toList.map Prod.fst ↔ a.context.contains name = true
  /-- The names that are contained are those that were supplied. -/
  contains : ∀ name, a.context.contains name = true ↔ name ∈ a.supplied.map Prod.fst
  /-- The entries give the names their values. -/
  entries : ∀ name value, (name, value) ∈ a.context.toList ↔ a.context.get? name = some value
  /-- There are as many entries as there are different names that were supplied. -/
  size : a.context.size = (a.supplied.map Prod.fst).dedup.length

/-- Contexts are maps, merged with a bias to the right. -/
theorem rightBiased (a b c : History) : RightBiased a b c := by
  constructor
  case complete => exact exists_context_eq
  case lookup => exact get?_mergedWith_ite a.context b.context
  case assoc => exact mergedWith_assoc a.context b.context c.context
  case empty_left => exact empty_mergedWith a.context
  case empty_right => rfl
  case flat => exact a.context_eq
  case append => exact ofList_append
  case last => exact fun front name value back h => get?_ofList_last h
  case swapped => exact fun front x y back h => ofList_swap h
  case reordered => exact fun entries entries' h => ofList_congr h
  case ascending => exact a.context.toList_ascending
  case once => exact a.context.nodup_names
  case names => exact fun name => mem_names_iff
  case contains => exact fun name => by rw [context_eq, contains_ofList_iff]
  case entries => exact fun name value => get?_eq_some_iff.symm
  case size => rw [context_eq, size_ofList]

end History

end ShaderPipeline
