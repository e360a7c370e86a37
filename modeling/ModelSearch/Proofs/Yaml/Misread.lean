import ModelSearch.Proofs.Yaml.Construct
import ModelSearch.Proofs.Yaml.TokenFaults

/-!
# Faults that are not about the document

A document that is no value is malformed, or has an escape of a number that is no character, or has a
scalar whose text does not fit its tag; or it is foreign: a node is inside itself, or half a pair is
escaped.  The second and the third are faults of their own, and they are all there are: looking at the
nodes of a document and making values of them finds no fault that is not one of the document or of one
of its scalars.

    Foreign text ↔ read source text is a fault that is foreign              (foreign_iff)
    Misread source text f ↔
      read source text = .error f ∧ f ≠ .document ∧ f.isForeign = false     (misread_iff)
-/

namespace ModelSearch.Yaml

variable {source : Nat} {made : Node → Prop}

/-! ## Scalars -/

/-- The tags under which a text can have a fault. -/
def Fault.OfTag : Fault → Tag → Prop
  | .bool _, t => t = .bool
  | .integer _, t => t = .int
  | .emptyNumber, t => t = .int ∨ t = .float
  | .float _, t | .tooLarge, t => t = .float
  | .timestamp, t | .timestampKind, t | .calendar _, t => t = .timestamp
  | .document, _ | .character, _ | .characterNumber, _ | .recursive, _ | .surrogate, _ => False

theorem Fault.OfTag.isForeign {f : Fault} {t : Tag} (h : f.OfTag t) : f.isForeign = false := by
  cases f with
  | recursive | surrogate => exact h.elim
  | _ => rfl

theorem ofTag_readBool {text : String} {f : Fault} (h : readBool text = .error f) :
    f.OfTag .bool := by
  unfold readBool at h
  dsimp only at h
  split at h
  · cases h
  · split at h
    · cases h
    · cases h
      rfl

theorem numberSign_eq_error {xs : List Char} {f : Fault} (h : numberSign xs = .error f) :
    f = .emptyNumber := by
  unfold numberSign at h
  split at h <;> cases h
  rfl

theorem ofTag_readBase {base : Nat} {xs : List Char} {f : Fault} (h : readBase base xs = .error f) :
    f.OfTag .int := by
  unfold readBase at h
  split at h <;> cases h
  rfl

theorem ofTag_readMagnitude {body : List Char} {f : Fault} (h : readMagnitude body = .error f) :
    f.OfTag .int := by
  unfold readMagnitude at h
  split at h
  · cases h
  split at h
  · exact ofTag_readBase h
  · exact ofTag_readBase h
  split at h
  · cases h
    exact .inl rfl
  · exact ofTag_readBase h
  split at h
  · cases hm : (Text.splitAt ':' body).mapM (readBase 10) with
    | ok ns =>
      rw [hm] at h
      cases h
    | error e =>
      rw [hm] at h
      cases h
      obtain ⟨part, -, he⟩ := exists_of_mapM_error hm
      exact ofTag_readBase he
  · exact ofTag_readBase h

theorem ofTag_readInt {text : String} {f : Fault} (h : readInt text = .error f) : f.OfTag .int := by
  unfold readInt at h
  rcases bind_eq_error.1 h with h | ⟨⟨neg, body⟩, -, h⟩
  · rw [numberSign_eq_error h]
    exact .inl rfl
  rcases bind_eq_error.1 h with h | ⟨n, -, h⟩
  · exact ofTag_readMagnitude h
  · cases h

theorem ofTag_readQuantity {xs : List Char} {f : Fault} (h : readQuantity xs = .error f) :
    f.OfTag .float := by
  unfold readQuantity at h
  split at h <;> cases h
  rfl

theorem ofTag_sixtySum {parts : List Quantity} {weight : Nat} {sum : Quantity} {f : Fault}
    (h : sixtySum parts weight sum = .error f) : f.OfTag .float := by
  induction parts generalizing weight sum with
  | nil => cases h
  | cons part parts ih =>
    unfold sixtySum at h
    split at h
    · cases h
      rfl
    · exact ih h

/-- The fault of a number does not depend on its mark. -/
theorem readFloat_eq_error {mark : Mark} {text : String} {f : Fault}
    (h : readFloat mark text = .error f) :
    f.OfTag .float ∧ ∀ other, readFloat other text = .error f := by
  unfold readFloat at h ⊢
  rcases bind_eq_error.1 h with hs | ⟨⟨neg, body⟩, hs, h⟩
  · rw [hs, numberSign_eq_error hs]
    exact ⟨.inr rfl, fun _ => rfl⟩
  simp only [hs, bind, Except.bind] at h ⊢
  split at h
  · cases h
  next hinf =>
  split at h
  · cases h
  next hnan =>
  simp only [if_neg hinf, if_neg hnan]
  split at h
  next hc =>
    simp only [if_pos hc]
    split at h
    next e hm =>
      cases h
      obtain ⟨part, -, he⟩ := exists_of_mapM_error hm
      exact ⟨ofTag_readQuantity he, fun _ => rfl⟩
    next parts hm =>
    split at h
    next e hq =>
      cases h
      exact ⟨ofTag_sixtySum hq, fun _ => rfl⟩
    · cases h
  next hc =>
    simp only [if_neg hc]
    split at h
    next e hq =>
      cases h
      exact ⟨ofTag_readQuantity hq, fun _ => rfl⟩
    · cases h

/-- A timestamp has the wrong form, or something that its mark has no part in is looked up in the
calendar. -/
theorem readTimestamp_cases (text : String) :
    (∀ mark, readTimestamp mark text = .error .timestamp) ∨
      ∃ (α : Type) (x : Except CalendarFault α) (g : Mark → α → Value),
        ∀ mark, readTimestamp mark text = calendarFault (x.map (g mark)) := by
  cases hs : stamp? (withoutFinalBreak text.toList) with
  | none => exact .inl fun mark => by simp only [readTimestamp, hs]
  | some s =>
    refine .inr ?_
    cases ht : s.time with
    | none =>
      exact ⟨Date, Date.of (decimalOf s.year) (decimalOf s.month) (decimalOf s.day), Value.date,
        fun mark => by simp only [readTimestamp, hs, ht]⟩
    | some t =>
      refine ⟨Moment, (t.zone.mapM fun z => checkOffset (zoneSeconds z)) >>= fun offset =>
        Moment.of (decimalOf s.year) (decimalOf s.month) (decimalOf s.day) (decimalOf t.hour)
          (decimalOf t.minute) (decimalOf t.second) (microseconds t.fraction) offset,
        Value.moment, fun mark => ?_⟩
      simp only [readTimestamp, hs, ht]
      cases t.zone.mapM fun z => checkOffset (zoneSeconds z) with
      | error e => rfl
      | ok offset =>
        simp only [bind, Except.bind]
        split <;> rename_i hm <;> rw [hm] <;> rfl

/-- The fault of a timestamp does not depend on its mark. -/
theorem readTimestamp_eq_error {mark : Mark} {text : String} {f : Fault}
    (h : readTimestamp mark text = .error f) :
    f.OfTag .timestamp ∧ ∀ other, readTimestamp other text = .error f := by
  rcases readTimestamp_cases text with hs | ⟨α, x, g, hs⟩
  · cases (hs mark).symm.trans h
    exact ⟨rfl, hs⟩
  · rw [hs] at h
    cases x with
    | ok a => cases h
    | error e =>
      cases h
      exact ⟨rfl, hs⟩

theorem readBinary_eq_error {text : String} {f : Fault} (h : readBinary text = .error f) :
    f = .document := by
  unfold readBinary at h
  dsimp only at h
  split at h
  · cases h
    rfl
  · split at h <;> cases h
    rfl

/-- A text that does not fit its tag has no value under any mark. -/
theorem scalarValue_eq_error {mark : Mark} {tag : Tag} {text : String} {f : Fault}
    (h : scalarValue? mark tag text = some (.error f)) (hf : f ≠ .document) :
    f.OfTag tag ∧ ∀ other, scalarValue? other tag text = some (.error f) := by
  cases tag with
  | null | text => cases h
  | bool => exact ⟨ofTag_readBool (Option.some.inj h), fun _ => h⟩
  | int => exact ⟨ofTag_readInt (Option.some.inj h), fun _ => h⟩
  | float =>
    obtain ⟨ht, ho⟩ := readFloat_eq_error (Option.some.inj h)
    exact ⟨ht, fun other => congrArg some (ho other)⟩
  | timestamp =>
    obtain ⟨ht, ho⟩ := readTimestamp_eq_error (Option.some.inj h)
    exact ⟨ht, fun other => congrArg some (ho other)⟩
  | binary => exact absurd (readBinary_eq_error (Option.some.inj h)) hf
  | _ => cases h

/-- A node whose text does not fit its tag, whatever the source is. -/
def Node.Misfit (n : Node) (f : Fault) : Prop :=
  f.OfTag n.tag ∧ ∀ source, scalarNodeValue source n = .error f

mutual

theorem scalarText_eq_error : ∀ (n : Node) (f : Fault), scalarText n = .error f → f = .document
  | .scalar _ _ _, _, h => by cases h
  | .sequence _ _ _, _, h => by
    cases h
    rfl
  | .mapping _ _ entries, f, h => defaultText_eq_error entries f h

theorem defaultText_eq_error :
    ∀ (entries : List (Node × Node)) (f : Fault), defaultText entries = .error f → f = .document
  | [], _, h => by
    cases h
    rfl
  | (k, v) :: rest, f, h => by
    unfold defaultText at h
    split at h
    · exact scalarText_eq_error v f h
    · exact defaultText_eq_error rest f h

end

theorem scalarNodeValue_eq_error {n : Node} {f : Fault} (h : scalarNodeValue source n = .error f) :
    f = .document ∨ n.Misfit f := by
  by_cases hf : f = .document
  · exact .inl hf
  refine .inr ?_
  unfold Node.Misfit scalarNodeValue at *
  rcases bind_eq_error.1 h with ht | ⟨text, ht, h⟩
  · exact absurd (scalarText_eq_error n f ht) hf
  simp only [ht, bind, Except.bind]
  split at h
  next hk =>
    cases h
    simp only [hk, if_true]
    have htag : n.tag = .timestamp := by
      rw [Bool.and_eq_true] at hk
      exact of_decide_eq_true hk.1
    exact ⟨htag, fun _ => trivial⟩
  next hk =>
    split at h
    next x hx =>
      subst h
      obtain ⟨ht, ho⟩ := scalarValue_eq_error hx hf
      refine ⟨ht, fun other => ?_⟩
      rw [if_neg hk, ho]
    · cases h
      exact absurd rfl hf

/-! ## Entries -/

mutual

theorem mergedEntries_eq_error : ∀ (entries : List (Node × Node)) (f : Fault),
    mergedEntries entries = .error f → f = .document
  | [], _, h => by cases h
  | (k, v) :: rest, f, h => by
    unfold mergedEntries at h
    split at h
    · rcases bind_eq_error.1 h with h | ⟨taken, -, h⟩
      · exact mergedFrom_eq_error v f h
      rcases bind_eq_error.1 h with h | ⟨r, -, h⟩
      · exact mergedEntries_eq_error rest f h
      · cases h
    · rcases bind_eq_error.1 h with h | ⟨r, -, h⟩
      · exact mergedEntries_eq_error rest f h
      · cases h

theorem mergedFrom_eq_error : ∀ (n : Node) (f : Fault), mergedFrom n = .error f → f = .document
  | .mapping _ _ entries, f, h => by
    unfold mergedFrom at h
    rcases bind_eq_error.1 h with h | ⟨r, -, h⟩
    · exact mergedEntries_eq_error entries f h
    · cases h
  | .sequence _ _ items, f, h => by
    unfold mergedFrom at h
    rcases bind_eq_error.1 h with h | ⟨r, -, h⟩
    · exact mergedItems_eq_error items f h
    · cases h
  | .scalar _ _ _, _, h => by
    cases h
    rfl

theorem mergedItems_eq_error : ∀ (ns : List Node) (f : Fault),
    mergedItems ns = .error f → f = .document
  | [], _, h => by cases h
  | .mapping _ _ entries :: rest, f, h => by
    unfold mergedItems at h
    rcases bind_eq_error.1 h with h | ⟨r, hr, h⟩
    · exact mergedEntries_eq_error entries f h
    rcases bind_eq_error.1 h with h | ⟨part, -, h⟩
    · cases h
    rcases bind_eq_error.1 h with h | ⟨parts, -, h⟩
    · exact mergedItems_eq_error rest f h
    · cases h
  | .sequence _ _ _ :: _, _, h => by
    unfold mergedItems at h
    cases h
    rfl
  | .scalar _ _ _ :: _, _, h => by
    unfold mergedItems at h
    cases h
    rfl

end

theorem allEntries_eq_error {entries : List (Node × Node)} {f : Fault}
    (h : allEntries entries = .error f) : f = .document := by
  unfold allEntries at h
  rcases bind_eq_error.1 h with h | ⟨r, -, h⟩
  · exact mergedEntries_eq_error entries f h
  · cases h

theorem keyedEntries_eq_error {entries : List (Node × Node)} {f : Fault}
    (h : keyedEntries entries = .error f) : f = .document := by
  unfold keyedEntries at h
  rcases bind_eq_error.1 h with h | ⟨r, -, h⟩
  · exact allEntries_eq_error h
  · split at h <;> cases h
    rfl

theorem pairEntries_eq_error {items : List Node} {f : Fault} (h : pairEntries items = .error f) :
    f = .document := by
  induction items with
  | nil => cases h
  | cons n items ih =>
    unfold pairEntries at h
    split at h
    next heq => cases heq
    next heq =>
      cases heq
      rcases bind_eq_error.1 h with h | ⟨r, -, h⟩
      · exact ih h
      · cases h
    · cases h
      rfl

/-! ## Rounds -/

/-- What goes wrong is the document, or a made node whose text does not fit its tag. -/
def BlamesNodes {α : Type} (made : Node → Prop) (x : Except Fault α) : Prop :=
  ∀ f, x = .error f → f = .document ∨ ∃ n, made n ∧ n.Misfit f

theorem blamesNodes_ok {α : Type} (a : α) : BlamesNodes made (.ok a) := nofun

theorem blamesNodes_document {α : Type} : BlamesNodes made (.error .document : Except Fault α) := by
  rintro f ⟨⟩
  exact .inl rfl

theorem BlamesNodes.bind {α β : Type} {x : Except Fault α} {k : α → Except Fault β}
    (h : BlamesNodes made x) (hk : ∀ a, x = .ok a → BlamesNodes made (k a)) :
    BlamesNodes made (x >>= k) := by
  intro f hf
  rcases bind_eq_error.1 hf with hx | ⟨a, ha, hb⟩
  · exact h f hx
  · exact hk a ha f hb

theorem blamesNodes_scalarNodeValue {n : Node} (h : KeyMade made n) :
    BlamesNodes made (scalarNodeValue source n) := by
  intro f hf
  rcases h with hn | ⟨s, t, rfl⟩
  · exact (scalarNodeValue_eq_error hf).imp id fun hm => ⟨n, hn, hm⟩
  · cases hf

/-- Looking at made nodes: only they are put on the list. -/
structure Meets (made : Node → Prop) (x : Except Fault Met) : Prop where
  blames : BlamesNodes made x
  waiting : ∀ m, x = .ok m → ∀ n ∈ m.waiting, made n

theorem Meets.bind {x : Except Fault Met} {k : Met → Except Fault Met} (h : Meets made x)
    (hk : ∀ m, (∀ n ∈ m.waiting, made n) → Meets made (k m)) : Meets made (x >>= k) := by
  refine ⟨h.blames.bind fun m hm => (hk m (h.waiting m hm)).blames, fun m hm => ?_⟩
  obtain ⟨a, ha, hb⟩ := bind_eq_ok.1 hm
  exact (hk a (h.waiting a ha)).waiting m hb

variable {m : Met}

theorem meets_ok (hm : ∀ n ∈ m.waiting, made n) : Meets made (.ok m) := by
  refine ⟨blamesNodes_ok m, ?_⟩
  rintro _ ⟨⟩
  exact hm

theorem meets_document : Meets made (.error .document) := ⟨blamesNodes_document, nofun⟩

theorem meets_meet (hm : ∀ n ∈ m.waiting, made n) {n : Node} (hn : KeyMade made n) :
    Meets made (meet m n) := by
  have hscalar : Meets made ((scalarNodeValue 0 n).map fun _ => m) := by
    have hb : BlamesNodes made (scalarNodeValue 0 n) := blamesNodes_scalarNodeValue hn
    cases hv : scalarNodeValue 0 n with
    | ok v => exact meets_ok hm
    | error e => exact ⟨fun f hf => hb f (by cases hf; exact hv), nofun⟩
  unfold meet
  split
  · exact hscalar
  · exact meets_document
  next hs _ =>
    have hmade : made n := by
      rcases hn with hn | ⟨s, t, rfl⟩
      · exact hn
      · exact absurd rfl hs
    split
    · exact meets_ok hm
    · refine meets_ok fun x hx => ?_
      rcases List.mem_append.1 hx with hx | hx
      · exact hm x hx
      · rw [List.mem_singleton.1 hx]
        exact hmade

theorem meets_meetAll (hm : ∀ n ∈ m.waiting, made n) {ns : List Node} (hn : ∀ n ∈ ns, made n) :
    Meets made (meetAll m ns) := by
  induction ns generalizing m with
  | nil => exact meets_ok hm
  | cons n ns ih =>
    exact (meets_meet hm (.inl (hn n List.mem_cons_self))).bind fun _ h =>
      ih h fun x hx => hn x (List.mem_cons_of_mem _ hx)

theorem meets_meetEntries (hm : ∀ n ∈ m.waiting, made n) {es : List (Node × Node)}
    (he : EntriesMade made es) : Meets made (meetEntries m es) := by
  induction es generalizing m with
  | nil => exact meets_ok hm
  | cons e es ih =>
    obtain ⟨hk, hv⟩ := he e List.mem_cons_self
    unfold meetEntries
    refine (meets_meet hm hk).bind fun m₁ h₁ => ?_
    split
    · exact (meets_meet h₁ (.inl hv)).bind fun _ h =>
        ih h fun x hx => he x (List.mem_cons_of_mem _ hx)
    · exact meets_document

theorem meets_meetPairs (hc : ∀ n, made n → ∀ c ∈ n.children, made c)
    (hm : ∀ n ∈ m.waiting, made n) {ns : List Node} (hn : ∀ n ∈ ns, made n) :
    Meets made (meetPairs m ns) := by
  induction ns generalizing m with
  | nil => exact meets_ok hm
  | cons n ns ih =>
    unfold meetPairs
    split
    next heq => cases heq
    next k v rest heq =>
      cases heq
      have hmade := hn _ List.mem_cons_self
      have hk := hc _ hmade k (key_mem_children List.mem_cons_self)
      have hv := hc _ hmade v (value_mem_children List.mem_cons_self)
      exact (meets_meet hm (.inl hk)).bind fun _ h₁ => (meets_meet h₁ (.inl hv)).bind fun _ h₂ =>
        ih h₂ fun x hx => hn x (List.mem_cons_of_mem _ hx)
    · exact meets_document

theorem meets_lookInto (hc : ∀ n, made n → ∀ c ∈ n.children, made c)
    (hm : ∀ n ∈ m.waiting, made n) {n : Node} (hn : made n) : Meets made (lookInto m n) := by
  have hentries : ∀ {s : Nat} {t : Tag} {entries : List (Node × Node)},
      made (.mapping s t entries) → Meets made (allEntries entries >>= meetEntries m) := by
    intro s t entries hmade
    cases ha : allEntries entries with
    | error e =>
      rw [allEntries_eq_error ha]
      exact meets_document
    | ok es =>
      refine meets_meetEntries hm (allEntries_made hc ha fun e he => ?_)
      exact ⟨hc _ hmade _ (key_mem_children he), hc _ hmade _ (value_mem_children he)⟩
  unfold lookInto
  split
  · exact meets_meetAll hm fun c hcn => hc _ hn c hcn
  · exact meets_meetPairs hc hm fun c hcn => hc _ hn c hcn
  · exact hentries hn
  · exact hentries hn
  · exact meets_document

theorem meets_lookIntoAll (hc : ∀ n, made n → ∀ c ∈ n.children, made c)
    (hm : ∀ n ∈ m.waiting, made n) {ns : List Node} (hn : ∀ n ∈ ns, made n) :
    Meets made (lookIntoAll m ns) := by
  induction ns generalizing m with
  | nil => exact meets_ok hm
  | cons n ns ih =>
    exact (meets_lookInto hc hm (hn n List.mem_cons_self)).bind fun _ h =>
      ih h fun x hx => hn x (List.mem_cons_of_mem _ hx)

theorem blamesNodes_rounds (hc : ∀ n, made n → ∀ c ∈ n.children, made c) (fuel : Nat)
    (hm : ∀ n ∈ m.waiting, made n) : BlamesNodes made (rounds m fuel) := by
  induction fuel generalizing m with
  | zero => exact blamesNodes_ok ()
  | succ fuel ih =>
    unfold rounds
    split
    · exact blamesNodes_ok ()
    · have hlook := meets_lookIntoAll (m := { m with waiting := [] }) hc nofun hm
      exact hlook.blames.bind fun m' hm' => ih (hlook.waiting m' hm')

theorem blamesNodes_inspect (hc : ∀ n, made n → ∀ c ∈ n.children, made c) {n : Node}
    (hn : made n) : BlamesNodes made (inspect n) := by
  have hmeet := meets_meet (m := {}) nofun (.inl hn)
  exact hmeet.blames.bind fun m hm => blamesNodes_rounds hc _ (hmeet.waiting m hm)

/-! ## Values -/

theorem blamesNodes_mapM {α β : Type} {k : α → Except Fault β} {xs : List α}
    (hk : ∀ x ∈ xs, BlamesNodes made (k x)) : BlamesNodes made (xs.mapM k) := by
  intro f hf
  obtain ⟨x, hx, he⟩ := exists_of_mapM_error hf
  exact hk x hx f he

theorem blamesNodes_constructEntries {k : Node → Except Fault Value}
    {es : List (Node × Node)} (hk : ∀ e ∈ es, BlamesNodes made (k e.1) ∧ BlamesNodes made (k e.2)) :
    BlamesNodes made (constructEntries k es) := by
  rw [constructEntries_eq_mapM]
  refine blamesNodes_mapM fun e he => ?_
  exact (hk e he).1.bind fun _ _ => (hk e he).2.bind fun _ _ => blamesNodes_ok _

theorem blamesNodes_construct (hc : ∀ n, made n → ∀ c ∈ n.children, made c) (fuel : Nat)
    {n : Node} (hn : KeyMade made n) : BlamesNodes made (construct source fuel n) := by
  induction fuel generalizing n with
  | zero => exact blamesNodes_document
  | succ fuel ih =>
    have hentries : ∀ {x : Except Fault (List (Node × Node))}
        {k : List (Value × Value) → Except Fault Value},
        (∀ f, x = .error f → f = .document) → (∀ es, x = .ok es → EntriesMade made es) →
        (∀ vs, BlamesNodes made (k vs)) →
        BlamesNodes made (x >>= fun es => constructEntries (construct source fuel) es >>= k) := by
      intro x k hx hes hk
      refine BlamesNodes.bind (fun f hf => .inl (hx f hf)) fun es he => ?_
      refine (blamesNodes_constructEntries fun e hm => ?_).bind fun vs _ => hk vs
      exact ⟨ih (hes es he e hm).1, ih (.inl (hes es he e hm).2)⟩
    rcases hn with hn | ⟨s, t, rfl⟩
    · have hmembers : ∀ {s : Nat} {t : Tag} {entries es : List (Node × Node)},
          made (.mapping s t entries) → keyedEntries entries = .ok es → EntriesMade made es := by
        intro s t entries es hmade hes
        refine allEntries_made hc (keyedEntries_eq_ok hes).1 fun e he => ?_
        exact ⟨hc _ hmade _ (key_mem_children he), hc _ hmade _ (value_mem_children he)⟩
      unfold construct
      split
      · exact blamesNodes_scalarNodeValue (.inl hn)
      · exact (blamesNodes_mapM fun c hcn => ih (.inl (hc _ hn c hcn))).bind
          fun _ _ => blamesNodes_ok _
      · exact hentries (fun _ => keyedEntries_eq_error) (fun _ => hmembers hn)
          fun _ => blamesNodes_ok _
      · exact hentries (fun _ => keyedEntries_eq_error) (fun _ => hmembers hn)
          fun _ => blamesNodes_ok _
      · exact hentries (fun _ => pairEntries_eq_error)
          (fun _ hp => pairEntries_made hc hp fun c hcn => hc _ hn c hcn) fun _ => blamesNodes_ok _
      · exact blamesNodes_document
    · exact blamesNodes_ok _

/-! ## Documents -/

/-- A node of another one: itself, or one that a node of it is made of. -/
inductive Node.Inside (root : Node) : Node → Prop where
  | root : Inside root root
  | child {n c : Node} : Inside root n → c ∈ n.children → Inside root c

/-- A text that is no value for another reason than its document: its tokens end at an escape of a
number that is no character, or a text in it does not fit its tag. -/
structure Misread (source : Nat) (text : List Char) (f : Fault) : Prop where
  read : read source text = .error f
  origin : (∃ g, Token.fault g ∈ tokens text ∧ (g = .character ∨ g = .characterNumber) ∧
      f = g.fault) ∨
    ∃ root n, document text = .ok (some root) ∧ root.Inside n ∧ n.Misfit f

/-- A text whose document comes to a node inside itself, or to half a pair that is escaped, before
anything of its form is at fault. -/
def Foreign (text : List Char) : Prop := ∃ f, document text = .error f ∧ f.isForeign = true

/-- A text has no node, or it has one, and then what goes wrong is the document, or a node of it whose
text does not fit its tag. -/
theorem read_eq_error {text : List Char} {f : Fault} (h : Yaml.read source text = .error f) :
    document text = .error f ∨ f = .document ∨
      ∃ root n, document text = .ok (some root) ∧ root.Inside n ∧ n.Misfit f := by
  unfold Yaml.read at h
  rcases bind_eq_error.1 h with hd | ⟨d, hd, h⟩
  · exact .inl hd
  split at h
  · cases h
  next root =>
    have hc : ∀ n, root.Inside n → ∀ c ∈ n.children, root.Inside c := fun n hn c hcn =>
      .child hn hcn
    have hnodes : BlamesNodes root.Inside
        (inspect root >>= fun _ => construct source (root.serial + 2) root) :=
      (blamesNodes_inspect hc .root).bind fun _ _ => blamesNodes_construct hc _ (.inl .root)
    rcases hnodes f h with h | ⟨n, hn, hm⟩
    · exact .inr (.inl h)
    · exact .inr (.inr ⟨root, n, hd, hn, hm⟩)

theorem read_of_document_eq_error {text : List Char} {f : Fault} (h : document text = .error f) :
    Yaml.read source text = .error f := by
  simp only [Yaml.read, h, bind, Except.bind]

/-- A document is foreign exactly if its reading ends with a fault that is. -/
theorem foreign_iff {text : List Char} :
    Foreign text ↔ ∃ f, Yaml.read source text = .error f ∧ f.isForeign = true := by
  constructor
  · rintro ⟨f, hd, hf⟩
    exact ⟨f, read_of_document_eq_error hd, hf⟩
  · rintro ⟨f, hr, hf⟩
    rcases read_eq_error hr with hd | rfl | ⟨root, n, -, -, hm⟩
    · exact ⟨f, hd, hf⟩
    · cases hf
    · cases hm.1.isForeign.symm.trans hf

/-- A value that cannot be read is malformed, misread or foreign. -/
theorem misread_iff {text : List Char} {f : Fault} :
    Misread source text f ↔
      Yaml.read source text = .error f ∧ f ≠ .document ∧ f.isForeign = false := by
  constructor
  · rintro ⟨hr, ⟨g, -, rfl | rfl, rfl⟩ | ⟨root, n, -, -, hm, -⟩⟩
    · exact ⟨hr, by decide, rfl⟩
    · exact ⟨hr, by decide, rfl⟩
    · refine ⟨hr, ?_, hm.isForeign⟩
      rintro rfl
      exact hm
  · rintro ⟨hr, hf, hk⟩
    refine ⟨hr, ?_⟩
    rcases read_eq_error hr with hd | h | h
    · rcases document_blames text f hd with h | rfl | ⟨g, hg, rfl⟩
      · exact absurd h hf
      · cases hk
      · refine .inl ⟨g, hg, ?_, rfl⟩
        cases g with
        | malformed => exact absurd rfl hf
        | character => exact .inl rfl
        | characterNumber => exact .inr rfl
        | surrogate => cases hk
    · exact absurd h hf
    · exact .inr h

end ModelSearch.Yaml
