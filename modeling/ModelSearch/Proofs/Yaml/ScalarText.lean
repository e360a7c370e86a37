import ModelSearch.Proofs.Text.Base64
import ModelSearch.Proofs.Yaml.Construct
import ModelSearch.Proofs.Yaml.FloatText
import ModelSearch.Proofs.Yaml.StampText

/-!
# Scalars are read as what they were written of

The text of every scalar that reading can give, under the tag that it is written with, is read as the
scalar again.  Only integers have a limit: one that is too long is neither read nor written.

    construct source fuel n = .ok v → every part of v is genuine        (genuine_of_construct)
    v is genuine, its integers are within the limit → ReadsBack v        (readsBack_of_genuine)
-/

namespace ModelSearch.Yaml

open Text (isAsciiDigit AllDigits)

/-! ## Integers -/

theorem head?_toDigits {n : Nat} (h : 0 < n) : (Nat.toDigits 10 n).head? ≠ some '0' := by
  intro hhead
  obtain ⟨ds, hds⟩ : ∃ ds, Nat.toDigits 10 n = '0' :: ds := by
    cases hn : Nat.toDigits 10 n with
    | nil => exact absurd hn Nat.toDigits_ne_nil
    | cons d ds =>
      rw [hn] at hhead
      exact ⟨ds, by rw [Option.some.inj hhead]⟩
  have hnumber := Text.numberOf_toDigits n
  have hlen := congrArg List.length hds
  rw [List.length_cons] at hlen
  -- the digits behind the zero are one too few for the number
  rw [hds, show '0' :: ds = List.replicate 1 '0' ++ ds from rfl, Text.numberOf_append,
    Text.numberOf_replicate, Nat.zero_mul, Nat.zero_add] at hnumber
  have hlt := Text.numberOf_lt ds
  rw [hnumber] at hlt
  rcases Nat.eq_zero_or_pos ds.length with hzero | hpos
  · rw [hzero] at hlt
    omega
  · have := (Nat.length_toDigits_le_iff (b := 10) (by decide) hpos).2 hlt
    omega

theorem readMagnitude_toString {n : Nat} (h : n < 10 ^ Text.maxDigits) :
    readMagnitude (toString n).toList = .ok n := by
  rcases Nat.eq_zero_or_pos n with rfl | hn
  · rfl
  have hread := Text.readInteger_toString h
  have hdigits := Text.allDigits_toString n
  have hhead := head?_toDigits hn
  rw [Text.toList_toString] at hread hdigits ⊢
  generalize Nat.toDigits 10 n = ds at hread hdigits hhead
  have hne : ∀ {c cs}, ds = c :: cs → c ≠ '0' := by
    rintro c cs rfl rfl
    exact hhead rfl
  have hmark : ∀ x, Text.afterStart ['0', x] ds = none := by
    intro x
    cases hds : ds with
    | nil => rfl
    | cons c cs =>
      unfold Text.afterStart
      rw [if_neg (Ne.symm (hne hds))]
  have hcolon : ds.contains ':' = false := by
    rw [Bool.eq_false_iff, ne_eq, List.contains_iff_mem]
    exact hdigits.notMem rfl
  unfold readMagnitude
  rw [if_neg (fun heq => hne heq rfl), hmark, hmark]
  dsimp only
  split
  · cases hread
  · exact absurd rfl (hne rfl)
  · rw [hcolon]
    simp [readBase, hread]

theorem readInt_toString {n : Int} (h : n.natAbs < 10 ^ Text.maxDigits) :
    readInt (toString n) = .ok (.int n) := by
  have hdigits := Text.allDigits_toString n.natAbs
  have hread := readMagnitude_toString h
  have hfilter : (toString n.natAbs).toList.filter (· ≠ '_') = (toString n.natAbs).toList := by
    rw [List.filter_eq_self]
    intro c hc
    have : c ≠ '_' := by
      rintro rfl
      exact hdigits.notMem rfl hc
    simpa using this
  obtain ⟨c, cs, hcs⟩ := List.exists_cons_of_ne_nil
    (show (toString n.natAbs).toList ≠ [] by
      rw [Text.toList_toString]
      exact Nat.toDigits_ne_nil)
  have hc : isAsciiDigit c = true := hdigits c (by rw [hcs]; exact List.mem_cons_self)
  have hsign : numberSign (toString n.natAbs).toList = .ok (false, (toString n.natAbs).toList) := by
    rw [hcs]
    unfold numberSign
    split
    next heq => cases heq
    next heq =>
      cases heq
      cases hc
    next heq =>
      cases heq
      cases hc
    next => rfl
  cases n with
  | ofNat m =>
    show readInt (toString m) = _
    replace hfilter : (toString m).toList.filter (· ≠ '_') = (toString m).toList := hfilter
    replace hsign : numberSign (toString m).toList = .ok (false, (toString m).toList) := hsign
    replace hread : readMagnitude (toString m).toList = .ok m := hread
    simp only [readInt, hfilter, hsign, hread, bind, Except.bind, pure, Except.pure, withSign]
    rfl
  | negSucc m =>
    show readInt ("-" ++ toString (m + 1)) = _
    replace hfilter : (toString (m + 1)).toList.filter (· ≠ '_') = (toString (m + 1)).toList :=
      hfilter
    replace hread : readMagnitude (toString (m + 1)).toList = .ok ((m + 1 : Nat) : Int) := hread
    have hneg : numberSign ('-' :: (toString (m + 1)).toList) = .ok (true, (toString (m + 1)).toList) :=
      rfl
    have hall : ("-" ++ toString (m + 1)).toList.filter (· ≠ '_')
        = '-' :: (toString (m + 1)).toList := by
      rw [String.toList_append, List.filter_append, hfilter]
      rfl
    simp only [readInt, hall, hneg, hread, bind, Except.bind, pure, Except.pure, withSign]
    rfl

/-! ## Bytes -/

theorem readBinary_base64Lines (bs : List UInt8) :
    readBinary (.ofList (Text.base64Lines bs)) = .ok (.bytes bs) := by
  have hascii : ((Text.base64Lines bs).any fun c => decide (127 < c.toNat)) = false := by
    rw [List.any_eq_false]
    intro c hc
    have := Text.ascii_base64Lines bs c hc
    simpa using this
  unfold readBinary
  simp [hascii, Text.fromBase64_base64Lines]

/-! ## Values that reading gives -/

/-- A value on its own is as reading gives it: numbers are rounded, dates and moments exist, keys are
scalars, and no key is there twice. -/
def Genuine : Value → Prop
  | .float x => x.Normal
  | .date _ d => d.Valid
  | .moment _ t => t.Valid
  | .set _ xs => (∀ x ∈ xs, (scalarForm? x).isSome) ∧ Entries.Distinct (xs.map fun x => (x, .null))
  | .dict _ es => (∀ e ∈ es, (scalarForm? e.1).isSome) ∧ Entries.Distinct es
  | _ => True

theorem genuine_of_scalarValue {mark : Mark} {tag : Tag} {text : String} {v : Value}
    (h : scalarValue? mark tag text = some (.ok v)) : Genuine v := by
  cases tag with
  | null | text =>
    cases h
    trivial
  | bool =>
    have h := Option.some.inj h
    unfold readBool at h
    dsimp only at h
    split at h
    · cases h
      trivial
    · split at h <;> cases h
      trivial
  | int =>
    obtain ⟨⟨neg, body⟩, -, h⟩ := bind_eq_ok.1 (Option.some.inj h)
    obtain ⟨n, -, h⟩ := bind_eq_ok.1 h
    cases h
    trivial
  | float =>
    rcases normal_of_readFloat (Option.some.inj h) with ⟨x, rfl, hx⟩ | ⟨m, rfl⟩
    · exact hx
    · trivial
  | binary =>
    have h := Option.some.inj h
    unfold readBinary at h
    dsimp only at h
    split at h
    · cases h
    · split at h <;> cases h
      trivial
  | timestamp =>
    rcases readTimestamp_valid (Option.some.inj h) with ⟨d, rfl, hd⟩ | ⟨t, rfl, ht⟩
    · exact hd
    · exact ht
  | _ => cases h

theorem scalarForm_keys {vs : List (Value × Value)}
    (h : ∀ e ∈ vs, (scalarForm? e.1).isSome) :
    ∀ e ∈ Entries.assignAll [] vs, (scalarForm? e.1).isSome := fun e he =>
  (Entries.forall_assignAll (p := fun k => (scalarForm? k).isSome) (q := fun _ => True)
    (by simp) (fun f hf => ⟨h f hf, trivial⟩) e he).1

theorem scalarForm_of_constructEntries {source fuel : Nat} {entries es : List (Node × Node)}
    {vs : List (Value × Value)} (hk : keyedEntries entries = .ok es)
    (hv : constructEntries (construct source fuel) es = .ok vs) :
    ∀ e ∈ vs, (scalarForm? e.1).isSome := by
  intro e he
  obtain ⟨⟨key, value⟩, hm, hw, -⟩ := exists_of_mem_constructEntries hv he
  have hshape : key.tag.shape = .scalar := (keyedEntries_eq_ok hk).2 _ hm
  dsimp only at hw
  generalize e.1 = w at hw
  cases fuel with
  | zero => cases hw
  | succ fuel =>
    cases constructed_of_construct hw with
    | scalar _ hs => exact (scalarOf_scalarNodeValue hs).1
    | list h | dict h | set h | pairs h =>
      rw [Node.tag, h] at hshape
      cases hshape

theorem genuine_of_construct {source fuel : Nat} {n : Node} {v : Value}
    (h : construct source fuel n = .ok v) : v.Throughout Genuine := by
  have hall : ∀ m : Node, True → ∀ c ∈ m.children, True := fun _ _ _ _ => trivial
  refine construct_throughout hall ?_ (fun t => trivial) ?_ fuel n v trivial h
  · intro m f w _ hw
    cases f with
    | zero => cases hw
    | succ f =>
      cases constructed_of_construct hw with
      | scalar _ hs =>
        obtain ⟨text, hx⟩ := scalarNodeValue_eq_ok hs
        exact genuine_of_scalarValue hx
      | dict _ hk hv =>
        exact ⟨scalarForm_keys (scalarForm_of_constructEntries hk hv),
          Entries.distinct_nil.assignAll _⟩
      | set _ hk hv =>
        refine ⟨fun x hx => ?_, ?_⟩
        · obtain ⟨e, he, rfl⟩ := List.mem_map.1 hx
          exact scalarForm_keys (scalarForm_of_constructEntries hk hv) e he
        · rw [List.map_map]
          exact List.pairwise_map.2 (Entries.distinct_nil.assignAll _)
      | _ => trivial
  · intro s t items es f vs _ _ _ _ u hu
    obtain ⟨i, e, -, rfl⟩ := exists_of_mem_tupled hu
    trivial

/-! ## Reading what was written -/

/-- Every integer that is a scalar is within the limit. -/
def WithinDigits : Value → Prop
  | .int n => n.natAbs < 10 ^ Text.maxDigits
  | _ => True

/-- Every genuine scalar is read as what it was written of. -/
theorem readsBack_of_genuine {v : Value} (hg : Genuine v) (hd : WithinDigits v) : ReadsBack v := by
  intro tag text hf mark
  cases v with
  | null =>
    cases hf
    exact ⟨.null, rfl, rfl⟩
  | bool b =>
    cases hf
    cases b <;> exact ⟨_, rfl, rfl⟩
  | int n =>
    cases hf
    exact ⟨_, congrArg some (readInt_toString hd), rfl⟩
  | float x =>
    cases hf
    exact ⟨_, congrArg some (readFloat_floatText mark hg), rfl⟩
  | notANumber m =>
    cases hf
    exact ⟨.notANumber .notANumber, rfl, rfl⟩
  | text t =>
    cases hf
    exact ⟨.text _, rfl, rfl⟩
  | bytes bs =>
    cases hf
    exact ⟨_, congrArg some (readBinary_base64Lines bs), rfl⟩
  | date m d =>
    cases hf
    exact ⟨_, congrArg some (readTimestamp_date mark hg), rfl⟩
  | moment m t =>
    cases hf
    exact ⟨_, congrArg some (readTimestamp_moment mark hg), rfl⟩
  | list | tuple | set | dict => cases hf

end ModelSearch.Yaml
