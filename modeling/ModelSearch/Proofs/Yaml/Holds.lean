import ModelSearch.ConfigFile
import ModelSearch.Proofs.Steps
import ModelSearch.Proofs.Value.Parts

/-!
# Nodes that hold a value

A node holds a value when it has the tags and the texts that the value is written with and its
children hold the parts of the value.  Such a node has no fault and gives the value back, but for
marks, unless the value has a tuple in it, whose tag the reader does not know.

    n.Holds v, every part of v readable → construct source fuel n gives v again  (construct_of_holds)
    n.Holds v, a part of v is a tuple → construct source fuel n fails      (construct_of_holds_tuple)
-/

namespace ModelSearch.Yaml

/-! ## What values are written as -/

/-- The tag and the text of a value that is written as a scalar. -/
def scalarForm? : Value → Option (Tag × String)
  | .null => some (.null, "null")
  | .bool b => some (.bool, if b then "true" else "false")
  | .int n => some (.int, toString n)
  | .float x => some (.float, floatText x)
  | .notANumber _ => some (.float, ".nan")
  | .text s => some (.text, s)
  | .bytes bs => some (.binary, .ofList (Text.base64Lines bs))
  | .date _ d => some (.timestamp, d.iso)
  | .moment _ t => some (.timestamp, t.iso " ")
  | _ => none

/-- The full tag of a tuple. -/
def tupleNodeTag : Tag := .other "tag:yaml.org,2002:python/tuple"

mutual

def Node.Holds (n : Node) (v : Value) : Prop :=
  match v with
  | .list _ xs => ∃ s items, n = .sequence s .sequence items ∧ AllHold items xs
  | .tuple _ xs => ∃ s items, n = .sequence s tupleNodeTag items ∧ AllHold items xs
  | .set _ xs => ∃ s entries, n = .mapping s .set entries ∧ MembersHold entries xs
  | .dict _ es => ∃ s entries, n = .mapping s .mapping entries ∧ EntriesHold entries es
  | v => ∃ s tag text, scalarForm? v = some (tag, text) ∧ n = .scalar s tag text
termination_by structural v

def AllHold (ns : List Node) (vs : List Value) : Prop :=
  match vs with
  | [] => ns = []
  | v :: vs => ∃ m ms, ns = m :: ms ∧ Node.Holds m v ∧ AllHold ms vs
termination_by structural vs

/-- The entries of a set: its items, with nothing as their values. -/
def MembersHold (es : List (Node × Node)) (vs : List Value) : Prop :=
  match vs with
  | [] => es = []
  | v :: vs => ∃ k s rest, es = (k, .scalar s .null "null") :: rest ∧ Node.Holds k v ∧
      MembersHold rest vs
termination_by structural vs

def EntriesHold (ns : List (Node × Node)) (es : List (Value × Value)) : Prop :=
  match es with
  | [] => ns = []
  | (k, v) :: es => ∃ a b rest, ns = (a, b) :: rest ∧ Node.Holds a k ∧ Node.Holds b v ∧
      EntriesHold rest es
termination_by structural es

end

/-- A scalar that can be a key, and is the same as itself. -/
def IsKey (v : Value) : Prop := (scalarForm? v).isSome ∧ ∀ m, v ≠ .notANumber m

/-- The text of a scalar is read as the scalar. -/
def ReadsBack (v : Value) : Prop :=
  ∀ tag text, scalarForm? v = some (tag, text) →
    ∀ mark, ∃ w, scalarValue? mark tag text = some (.ok w) ∧ w.unmarked = v.unmarked

/-- What the reader makes of a value on its own is the value. -/
def ReadablePart : Value → Prop
  | .tuple _ _ => False
  | .list _ _ => True
  | .set _ xs => (∀ x ∈ xs, IsKey x) ∧ Entries.Distinct (xs.map fun x => (x, .null))
  | .dict _ es => (∀ e ∈ es, IsKey e.1) ∧ Entries.Distinct es
  | v => ReadsBack v

theorem throughout_null : (Value.null).Throughout ReadablePart := by
  intro u hu
  rw [List.mem_singleton.1 hu]
  rintro tag text hf mark
  cases hf
  exact ⟨.null, rfl, rfl⟩

/-! ## Scalars -/

theorem Node.Holds.scalar {n : Node} {v : Value} (h : n.Holds v) {tag : Tag} {text : String}
    (hv : scalarForm? v = some (tag, text)) : ∃ s, n = .scalar s tag text := by
  cases v <;> simp only [scalarForm?, reduceCtorEq] at hv <;>
  · obtain ⟨s, tag', text', hf, rfl⟩ := h
    cases hv.symm.trans hf
    exact ⟨s, rfl⟩

theorem scalarForm?_tag {v : Value} {tag : Tag} {text : String} (h : scalarForm? v = some (tag, text)) :
    tag.shape = .scalar ∧ tag ≠ .value ∧ tag ≠ .merge := by
  cases v <;> cases h <;> exact ⟨rfl, nofun, nofun⟩

theorem scalarNodeValue_scalar (source s : Nat) (tag : Tag) (text : String) {w : Value}
    (h : scalarValue? (.own source s) tag text = some (.ok w)) :
    scalarNodeValue source (.scalar s tag text) = .ok w := by
  simp [scalarNodeValue, scalarText, isScalar, Node.tag, Node.serial, h, bind, Except.bind]

theorem scalarNodeValue_of_holds {n : Node} {v : Value} (h : n.Holds v) (hr : ReadsBack v)
    {f : Tag × String} (hv : scalarForm? v = some f) (source : Nat) :
    n.tag.shape = .scalar ∧ ∃ w, scalarNodeValue source n = .ok w ∧ w.unmarked = v.unmarked := by
  obtain ⟨s, rfl⟩ := h.scalar hv
  obtain ⟨w, hw, hu⟩ := hr f.1 f.2 hv (.own source s)
  exact ⟨(scalarForm?_tag hv).1, w, scalarNodeValue_scalar source s f.1 f.2 hw, hu⟩

/-! ## Keys -/

theorem key_of_holds {n : Node} {v : Value} (h : n.Holds v) (hk : (scalarForm? v).isSome) :
    n.tag.shape = .scalar ∧ n.tag ≠ .value ∧ n.tag ≠ .merge := by
  obtain ⟨⟨tag, text⟩, hf⟩ := Option.isSome_iff_exists.1 hk
  obtain ⟨s, rfl⟩ := h.scalar hf
  exact scalarForm?_tag hf

/-- Entries whose keys neither merge nor are defaults are left as they are. -/
theorem mergedEntries_of_keys {entries : List (Node × Node)}
    (h : ∀ e ∈ entries, e.1.tag ≠ .value ∧ e.1.tag ≠ .merge) :
    mergedEntries entries = .ok ([], entries) := by
  induction entries with
  | nil => rfl
  | cons e entries ih =>
    obtain ⟨hv, hm⟩ := h e List.mem_cons_self
    have hrest := ih fun f hf => h f (List.mem_cons_of_mem _ hf)
    have hp : plainKey e.1 = e.1 := by
      unfold plainKey
      split
      · next heq =>
        rw [heq] at hv
        exact absurd rfl hv
      · rfl
    simp [mergedEntries, hm, hrest, hp, bind, Except.bind, pure, Except.pure]

theorem allEntries_of_keys {entries : List (Node × Node)}
    (h : ∀ e ∈ entries, e.1.tag ≠ .value ∧ e.1.tag ≠ .merge) :
    allEntries entries = .ok entries := by
  simp [allEntries, mergedEntries_of_keys h, bind, Except.bind, pure, Except.pure]

theorem keyedEntries_of_keys {entries : List (Node × Node)}
    (h : ∀ e ∈ entries, e.1.tag.shape = .scalar ∧ e.1.tag ≠ .value ∧ e.1.tag ≠ .merge) :
    keyedEntries entries = .ok entries := by
  have hall : (entries.all fun e => decide (e.1.tag.shape = .scalar)) = true := by
    rw [List.all_eq_true]
    exact fun e he => decide_eq_true (h e he).1
  simp [keyedEntries, allEntries_of_keys fun e he => (h e he).2, hall, bind, Except.bind, pure,
    Except.pure]

theorem keys_of_entriesHold {ns : List (Node × Node)} {es : List (Value × Value)}
    (h : EntriesHold ns es) (hk : ∀ e ∈ es, (scalarForm? e.1).isSome) :
    ∀ e ∈ ns, e.1.tag.shape = .scalar ∧ e.1.tag ≠ .value ∧ e.1.tag ≠ .merge := by
  induction es generalizing ns with
  | nil =>
    cases h
    simp
  | cons e es ih =>
    obtain ⟨a, b, rest, rfl, ha, -, hrest⟩ := h
    intro f hf
    rcases List.mem_cons.1 hf with rfl | hf
    · exact key_of_holds ha (hk e List.mem_cons_self)
    · exact ih hrest (fun e he => hk e (List.mem_cons_of_mem _ he)) f hf

/-- The entries of a set, as those of a mapping to nothing. -/
theorem membersHold_iff {ns : List (Node × Node)} {vs : List Value} :
    MembersHold ns vs ↔ EntriesHold ns (vs.map fun v => (v, .null)) := by
  induction vs generalizing ns with
  | nil => exact Iff.rfl
  | cons v vs ih =>
    constructor
    · rintro ⟨k, s, rest, rfl, hk, hrest⟩
      exact ⟨k, _, rest, rfl, hk, ⟨s, .null, "null", rfl, rfl⟩, ih.1 hrest⟩
    · rintro ⟨a, b, rest, rfl, ha, ⟨s, tag, text, hf, rfl⟩, hrest⟩
      cases hf
      exact ⟨a, s, rest, rfl, ha, ih.2 hrest⟩

/-! ## Values -/

/-- The nodes that a node is made of. -/
def Node.children : Node → List Node
  | .scalar _ _ _ => []
  | .sequence _ _ items => items
  | .mapping _ _ entries => entries.flatMap fun e => [e.1, e.2]

/-- Every node in a node has a smaller number than the one that it is a child of. -/
inductive Descending : Node → Prop where
  | intro {n : Node} : (∀ c ∈ n.children, c.serial < n.serial) → (∀ c ∈ n.children, Descending c) →
      Descending n

theorem Descending.smaller {n c : Node} (h : Descending n) (hc : c ∈ n.children) :
    c.serial < n.serial := by
  cases h with
  | intro hs _ => exact hs c hc

theorem Descending.child {n c : Node} (h : Descending n) (hc : c ∈ n.children) : Descending c := by
  cases h with
  | intro _ hd => exact hd c hc

theorem key_mem_children {s : Nat} {tag : Tag} {entries : List (Node × Node)} {e : Node × Node}
    (h : e ∈ entries) : e.1 ∈ (Node.mapping s tag entries).children :=
  List.mem_flatMap.2 ⟨e, h, by simp⟩

theorem value_mem_children {s : Nat} {tag : Tag} {entries : List (Node × Node)} {e : Node × Node}
    (h : e ∈ entries) : e.2 ∈ (Node.mapping s tag entries).children :=
  List.mem_flatMap.2 ⟨e, h, by simp⟩

open Value (unmarkedAll unmarkedEntries unmarkedAll_eq unmarkedEntries_eq)

/-- Whether a value is a key does not depend on marks. -/
theorem IsKey.comparable {v : Value} (h : IsKey v) : v.Comparable := by
  cases v with
  | notANumber m => exact absurd rfl (h.2 m)
  | list | tuple | set | dict => cases h.1
  | _ => trivial

/-- Entries that are made of other objects, assigned one after the other, stay as they are. -/
theorem assignAll_of_unmarked {es fs : Entries} (hk : ∀ e ∈ es, IsKey e.1) (hd : es.Distinct)
    (h : unmarkedEntries fs = unmarkedEntries es) : Entries.assignAll [] fs = fs := by
  refine Entries.assignAll_nil ?_
  have hes : ∀ e ∈ es, e.1.Comparable := fun e he => (hk e he).comparable
  have hfs : ∀ f ∈ fs, f.1.Comparable := by
    intro f hf
    rw [unmarkedEntries_eq, unmarkedEntries_eq] at h
    have hm := List.mem_map_of_mem (f := fun e : Value × Value => (e.1.unmarked, e.2.unmarked)) hf
    rw [h] at hm
    obtain ⟨e, he, heq⟩ := List.mem_map.1 hm
    rw [← Value.comparable_unmarked, ← (Prod.mk.inj heq).1, Value.comparable_unmarked]
    exact hes e he
  rw [← Value.distinct_unmarked_iff hfs, h, Value.distinct_unmarked_iff hes]
  exact hd

/-- The values of a key and of what stands under it. -/
def entryValue (f : Node → Except Fault Value) (n : Node × Node) : Except Fault (Value × Value) := do
  return (← f n.1, ← f n.2)

theorem entryValue_eq_ok {f : Node → Except Fault Value} {n : Node × Node} {e : Value × Value} :
    entryValue f n = .ok e ↔ f n.1 = .ok e.1 ∧ f n.2 = .ok e.2 := by
  obtain ⟨k, v⟩ := e
  cases hk : f n.1 <;> cases hv : f n.2 <;>
    simp [entryValue, hk, hv, bind, Except.bind, pure, Except.pure]

theorem constructEntries_eq_mapM (f : Node → Except Fault Value) (ns : List (Node × Node)) :
    constructEntries f ns = ns.mapM (entryValue f) := by
  induction ns with
  | nil => rfl
  | cons n ns ih =>
    simp only [constructEntries, List.mapM_cons, entryValue, ← ih]
    cases f n.1 with
    | error e => rfl
    | ok k => cases f n.2 <;> rfl

/-- What is read again is the value, but for marks. -/
def Gives (source fuel : Nat) (n : Node) (v : Value) : Prop :=
  ∃ w, construct source fuel n = .ok w ∧ w.unmarked = v.unmarked

theorem gives_scalar {n : Node} {v : Value} (h : n.Holds v) (hr : ReadsBack v)
    {f : Tag × String} (hv : scalarForm? v = some f) (source fuel : Nat) :
    Gives source (fuel + 1) n v := by
  obtain ⟨hs, w, hw, hu⟩ := scalarNodeValue_of_holds h hr hv source
  refine ⟨w, ?_, hu⟩
  unfold construct
  simp only [hs, hw]

theorem mapM_of_gives {source fuel : Nat} {ns : List Node} {vs : List Value} (h : AllHold ns vs)
    (hg : ∀ n ∈ ns, ∀ v ∈ vs, n.Holds v → Gives source fuel n v) :
    ∃ ws, ns.mapM (construct source fuel) = .ok ws ∧ unmarkedAll ws = unmarkedAll vs := by
  induction vs generalizing ns with
  | nil =>
    cases h
    exact ⟨[], rfl, rfl⟩
  | cons v vs ih =>
    obtain ⟨m, ms, rfl, hm, hms⟩ := h
    obtain ⟨w, hw, hu⟩ := hg m List.mem_cons_self v List.mem_cons_self hm
    obtain ⟨ws, hws, hus⟩ := ih hms fun n hn x hx =>
      hg n (List.mem_cons_of_mem _ hn) x (List.mem_cons_of_mem _ hx)
    refine ⟨w :: ws, ?_, ?_⟩
    · simp [List.mapM_cons, hw, hws, bind, Except.bind, pure, Except.pure]
    · simp only [unmarkedAll, hu, hus]

theorem constructEntries_of_gives (source fuel : Nat) {ns : List (Node × Node)}
    {es : List (Value × Value)} (h : EntriesHold ns es)
    (hg : ∀ n ∈ ns, ∀ e ∈ es, (n.1.Holds e.1 → Gives source fuel n.1 e.1) ∧
      (n.2.Holds e.2 → Gives source fuel n.2 e.2)) :
    ∃ fs, constructEntries (construct source fuel) ns = .ok fs ∧
      unmarkedEntries fs = unmarkedEntries es := by
  induction es generalizing ns with
  | nil =>
    cases h
    exact ⟨[], rfl, rfl⟩
  | cons e es ih =>
    obtain ⟨a, b, rest, rfl, ha, hb, hrest⟩ := h
    have he := hg (a, b) List.mem_cons_self e List.mem_cons_self
    obtain ⟨k, hk, huk⟩ := he.1 ha
    obtain ⟨v, hv, huv⟩ := he.2 hb
    obtain ⟨fs, hfs, huf⟩ := ih hrest fun n hn f hf =>
      hg n (List.mem_cons_of_mem _ hn) f (List.mem_cons_of_mem _ hf)
    refine ⟨(k, v) :: fs, ?_, ?_⟩
    · simp [constructEntries, hk, hv, hfs, bind, Except.bind, pure, Except.pure]
    · simp only [unmarkedEntries, huk, huv, huf]

/-- A node that holds a readable value gives it back. -/
theorem construct_of_holds (source : Nat) : ∀ (fuel : Nat) (n : Node) (v : Value), n.Holds v →
    v.Throughout ReadablePart → Descending n → n.serial < fuel → Gives source fuel n v := by
  intro fuel
  induction fuel with
  | zero => exact fun n v _ _ _ hs => absurd hs (Nat.not_lt_zero _)
  | succ fuel ih =>
    intro n v h hr hd hs
    have hchild : ∀ c ∈ n.children, ∀ u, c.Holds u → u.Throughout ReadablePart →
        Gives source fuel c u := by
      intro c hc u hu hru
      have := hd.smaller hc
      exact ih c u hu hru (hd.child hc) (by omega)
    cases v with
    | list k xs =>
      obtain ⟨s, items, rfl, hi⟩ := h
      obtain ⟨-, hx⟩ := Value.throughout_list.1 hr
      obtain ⟨ws, hw, hu⟩ := mapM_of_gives hi fun c hc x hx' hcx => hchild c hc x hcx (hx x hx')
      exact ⟨.list (.own source s) ws,
        by simp [construct, Node.tag, Tag.shape, hw, bind, Except.bind, pure, Except.pure],
        by simp only [Value.unmarked, hu]⟩
    | tuple k xs => exact hr.self.elim
    | set k xs =>
      obtain ⟨s, entries, rfl, hm⟩ := h
      obtain ⟨⟨hk, hdist⟩, hx⟩ := Value.throughout_set.1 hr
      have he := membersHold_iff.1 hm
      have hkeys : ∀ e ∈ xs.map fun x => (x, Value.null), IsKey e.1 := by
        intro e he
        obtain ⟨x, hx', rfl⟩ := List.mem_map.1 he
        exact hk x hx'
      obtain ⟨fs, hf, hu⟩ := constructEntries_of_gives source fuel he (by
        intro c hc e hxe
        obtain ⟨x, hx', rfl⟩ := List.mem_map.1 hxe
        refine ⟨fun hh => hchild c.1 (key_mem_children hc) x hh (hx x hx'), fun hh => ?_⟩
        exact hchild c.2 (value_mem_children hc) .null hh throughout_null)
      refine ⟨.set (.own source s) (fs.map (·.1)), ?_, ?_⟩
      · simp [construct, Node.tag, Tag.shape, keyedEntries_of_keys (keys_of_entriesHold he fun e h => (hkeys e h).1), hf,
          assignAll_of_unmarked hkeys hdist hu, bind, Except.bind, pure, Except.pure]
      · have hfirst := congrArg (List.map Prod.fst) hu
        rw [unmarkedEntries_eq, unmarkedEntries_eq] at hfirst
        simp only [Value.unmarked, unmarkedAll_eq]
        simpa [List.map_map, Function.comp_def] using hfirst
    | dict k es =>
      obtain ⟨s, entries, rfl, he⟩ := h
      obtain ⟨⟨hk, hdist⟩, hx⟩ := Value.throughout_dict.1 hr
      obtain ⟨fs, hf, hu⟩ := constructEntries_of_gives source fuel he fun c hc e hxe =>
        ⟨fun hh => hchild c.1 (key_mem_children hc) e.1 hh (hx e hxe).1,
          fun hh => hchild c.2 (value_mem_children hc) e.2 hh (hx e hxe).2⟩
      refine ⟨.dict (.own source s) fs, ?_, ?_⟩
      · simp [construct, Node.tag, Tag.shape, keyedEntries_of_keys (keys_of_entriesHold he fun e h => (hk e h).1), hf,
          assignAll_of_unmarked hk hdist hu, bind, Except.bind, pure, Except.pure]
      · simp only [Value.unmarked, hu]
    | _ => exact gives_scalar h hr.self rfl source fuel

/-! ## Tuples -/

/-- The keys of a mapping, or the items of a set, are scalars. -/
def KeyedPart : Value → Prop
  | .set _ xs => ∀ x ∈ xs, (scalarForm? x).isSome
  | .dict _ es => ∀ e ∈ es, (scalarForm? e.1).isSome
  | _ => True

def IsTuple : Value → Prop
  | .tuple _ _ => True
  | _ => False

/-- The parts of a scalar are the scalar. -/
theorem parts_of_scalarForm {v : Value} (h : (scalarForm? v).isSome) : v.parts = [v] := by
  cases v <;> first | rfl | cases h

theorem not_isTuple_of_scalarForm {v : Value} (h : (scalarForm? v).isSome) :
    ∀ u ∈ v.parts, ¬IsTuple u := by
  rw [parts_of_scalarForm h]
  intro u hu
  rw [List.mem_singleton.1 hu]
  cases v <;> first | exact id | cases h

theorem exists_of_allHold {ns : List Node} {vs : List Value} (h : AllHold ns vs) {v : Value}
    (hv : v ∈ vs) : ∃ n ∈ ns, n.Holds v := by
  induction vs generalizing ns with
  | nil => cases hv
  | cons w vs ih =>
    obtain ⟨m, ms, rfl, hm, hms⟩ := h
    rcases List.mem_cons.1 hv with rfl | hv
    · exact ⟨m, List.mem_cons_self, hm⟩
    · obtain ⟨n, hn, hh⟩ := ih hms hv
      exact ⟨n, List.mem_cons_of_mem _ hn, hh⟩

theorem exists_of_entriesHold {ns : List (Node × Node)} {es : List (Value × Value)}
    (h : EntriesHold ns es) {e : Value × Value} (he : e ∈ es) :
    ∃ n ∈ ns, n.1.Holds e.1 ∧ n.2.Holds e.2 := by
  induction es generalizing ns with
  | nil => cases he
  | cons f es ih =>
    obtain ⟨a, b, rest, rfl, ha, hb, hrest⟩ := h
    rcases List.mem_cons.1 he with rfl | he
    · exact ⟨(a, b), List.mem_cons_self, ha, hb⟩
    · obtain ⟨n, hn, hh⟩ := ih hrest he
      exact ⟨n, List.mem_cons_of_mem _ hn, hh⟩

/-- No value is made of a node that holds a value with a tuple in it. -/
theorem construct_of_holds_tuple (source : Nat) : ∀ (fuel : Nat) (n : Node) (v : Value), n.Holds v →
    v.Throughout KeyedPart → (∃ u ∈ v.parts, IsTuple u) → ∀ w, construct source fuel n ≠ .ok w := by
  intro fuel
  induction fuel with
  | zero => exact fun n v _ _ _ w => nofun
  | succ fuel ih =>
    intro n v h hk hu w hw
    cases v with
    | list k xs =>
      obtain ⟨s, items, rfl, hi⟩ := h
      obtain ⟨u, hu, ht⟩ := hu
      simp only [Value.parts, List.mem_cons, Value.mem_partsOfAll] at hu
      rcases hu with rfl | ⟨x, hx, hux⟩
      · exact ht
      obtain ⟨c, hc, hcx⟩ := exists_of_allHold hi hx
      have hne := ih c x hcx ((Value.throughout_list.1 hk).2 x hx) ⟨u, hux, ht⟩
      simp only [construct, Node.tag, Tag.shape, bind, Except.bind, pure, Except.pure] at hw
      split at hw
      · cases hw
      next ws hws =>
      obtain ⟨y, -, hy⟩ := exists_mem_of_mapM hws hc
      exact hne y hy
    | tuple k xs =>
      obtain ⟨s, items, rfl, -⟩ := h
      simp [construct, Node.tag, tupleNodeTag, Tag.shape] at hw
    | set k xs =>
      obtain ⟨u, hu, ht⟩ := hu
      simp only [Value.parts, List.mem_cons, Value.mem_partsOfAll] at hu
      rcases hu with rfl | ⟨x, hx, hux⟩
      · exact ht
      exact not_isTuple_of_scalarForm (hk.self x hx) u hux ht
    | dict k es =>
      obtain ⟨s, entries, rfl, he⟩ := h
      obtain ⟨u, hu, ht⟩ := hu
      simp only [Value.parts, List.mem_cons, Value.mem_partsOfEntries] at hu
      rcases hu with rfl | ⟨e, hm, hue⟩
      · exact ht
      obtain ⟨hself, hrest⟩ := Value.throughout_dict.1 hk
      rcases hue with hue | hue
      · exact not_isTuple_of_scalarForm (hself e hm) u hue ht
      obtain ⟨c, hc, -, hce⟩ := exists_of_entriesHold he hm
      have hne := ih c.2 e.2 hce (hrest e hm).2 ⟨u, hue, ht⟩
      simp only [construct, Node.tag, Tag.shape, bind, Except.bind, pure, Except.pure,
        keyedEntries_of_keys (keys_of_entriesHold he hself)] at hw
      split at hw
      · cases hw
      next fs hfs =>
      rw [constructEntries_eq_mapM] at hfs
      obtain ⟨f, -, hf⟩ := exists_mem_of_mapM hfs hc
      exact hne f.2 (entryValue_eq_ok.1 hf).2
    | _ =>
      obtain ⟨u, hu, ht⟩ := hu
      exact not_isTuple_of_scalarForm rfl u hu ht

end ModelSearch.Yaml
