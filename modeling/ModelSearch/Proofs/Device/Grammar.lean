import ModelSearch.Device
import ModelSearch.Proofs.Text.Integer
import ModelSearch.Proofs.Text.Lower

/-!
# The forms of device names

A name is read in lower case and without the blanks around it.  It is a kind with digits behind it,
which may stand in brackets or be missing: the CPU has none, and those of a GPU are the number of
its index, of any script and at most 4300.

    nameParts? xs = some (kind, digits) ↔ IsKind kind ∧ Spells kind digits xs
                                                                       (nameParts?_eq_some_iff)
    ofName name = r ↔ Reads name r                                     (ofName_eq_iff)
-/

namespace ModelSearch.Device

open Text

variable {xs kind digits : List Char} {name : String}

/-! ## Kinds and digits -/

def IsKind (kind : List Char) : Prop := kind ≠ [] ∧ ∀ c ∈ kind, isAsciiLower c = true

/-- Digits behind a kind, in brackets or not.  Without digits the brackets are empty or missing. -/
def Spells (kind digits xs : List Char) : Prop :=
  (∀ c ∈ digits, isDigit c = true) ∧ (xs = kind ++ digits ∨ xs = kind ++ '(' :: (digits ++ [')']))

theorem isAsciiLower_iff {c : Char} : isAsciiLower c = true ↔ 97 ≤ c.toNat ∧ c.toNat ≤ 122 := by
  unfold isAsciiLower
  rw [Bool.and_eq_true, decide_eq_true_eq, decide_eq_true_eq]
  rfl

theorem not_isAsciiLower_of_isDigit {c : Char} (h : isDigit c = true) : isAsciiLower c = false := by
  have hzeros : ∀ z ∈ zeros, z + 10 ≤ 97 ∨ 122 < z := by decide
  obtain ⟨d, hd⟩ := isDigit_iff.1 h
  rw [← Bool.not_eq_true, isAsciiLower_iff]
  unfold digitValue? at hd
  split at hd
  · next hc =>
    rw [isAsciiDigit_iff] at hc
    omega
  · obtain ⟨z, hz, -⟩ := Option.map_eq_some_iff.1 hd
    have hrow := List.find?_some hz
    have hapart := hzeros z (List.mem_of_find?_eq_some hz)
    simp only [Bool.and_eq_true, decide_eq_true_eq] at hrow
    omega

/-- The letters of a kind end where no letter follows them. -/
theorem cutWhere_kind (h : IsKind kind) {rest : List Char}
    (hrest : ∀ c, rest.head? = some c → isAsciiLower c = false) :
    cutWhere (fun c => !isAsciiLower c) (kind ++ rest) = (kind, rest) := by
  rw [cutWhere_append fun c hc => by simp [h.2 c hc]]
  cases rest with
  | nil => simp [cutWhere]
  | cons c cs => simp [cutWhere, hrest c rfl]

theorem nameParts?_bare (h : IsKind kind) (hdigits : ∀ c ∈ digits, isDigit c = true) :
    nameParts? (kind ++ digits) = some (kind, digits) := by
  have hcut : cutWhere (fun c => !isAsciiLower c) (kind ++ digits) = (kind, digits) :=
    cutWhere_kind h fun c hc => not_isAsciiLower_of_isDigit (hdigits c (List.mem_of_head? hc))
  rw [nameParts?, hcut]
  cases digits with
  | nil => simp [h.1]
  | cons c cs =>
    have hc : c ≠ '(' := by
      rintro rfl
      have hno := not_isDigit_of_mem (c := '(') (by simp)
      rw [hdigits '(' List.mem_cons_self] at hno
      cases hno
    have hall : (c :: cs).all isDigit = true := List.all_eq_true.2 hdigits
    simp only [List.isEmpty_iff, h.1, if_false]
    split
    · cases ‹c :: cs = []›
    · next hcons => exact absurd (List.cons.inj hcons).1 hc
    · simp [hall]

theorem nameParts?_brackets (h : IsKind kind) (hdigits : ∀ c ∈ digits, isDigit c = true) :
    nameParts? (kind ++ '(' :: (digits ++ [')'])) = some (kind, digits) := by
  have hcut : cutWhere (fun c => !isAsciiLower c) (kind ++ '(' :: (digits ++ [')']))
      = (kind, '(' :: (digits ++ [')'])) := by
    refine cutWhere_kind h fun c hc => ?_
    cases hc
    rfl
  have hinside : cutWhere (fun c => !isDigit c) (digits ++ [')']) = (digits, [')']) := by
    rw [cutWhere_append fun c hc => by simp [hdigits c hc]]
    simp [cutWhere, not_isDigit_of_mem]
  rw [nameParts?, hcut]
  simp [h.1, hinside]

/-- The kind and the digits of a name are those that it is written with. -/
theorem nameParts?_eq_some_iff :
    nameParts? xs = some (kind, digits) ↔ IsKind kind ∧ Spells kind digits xs := by
  constructor
  · intro h
    -- the letters in front are the kind, and what follows them decides the form
    have hparts := cutWhere_parts (fun c => !isAsciiLower c) xs
    have hletters : ∀ c ∈ (cutWhere (fun c => !isAsciiLower c) xs).1, isAsciiLower c = true :=
      fun c hc => by simpa using neg_of_mem_cutWhere hc
    unfold nameParts? at h
    generalize cutWhere (fun c => !isAsciiLower c) xs = cut at h hparts hletters
    obtain ⟨letters, rest⟩ := cut
    dsimp only at h hparts hletters
    split at h
    · cases h
    next hne =>
      have hkind : IsKind letters := ⟨by simpa using hne, hletters⟩
      split at h
      · cases h
        exact ⟨hkind, by simp, .inl hparts.symm⟩
      next rest =>
        have hinside := cutWhere_parts (fun c => !isDigit c) rest
        split at h
        next hclose =>
          cases h
          refine ⟨hkind, fun c hc => by simpa using neg_of_mem_cutWhere hc, .inr ?_⟩
          rw [← hclose, hinside, hparts]
        · cases h
      · split at h
        next hall =>
          cases h
          exact ⟨hkind, List.all_eq_true.1 hall, .inl hparts.symm⟩
        · cases h
  · rintro ⟨hkind, hdigits, rfl | rfl⟩
    · exact nameParts?_bare hkind hdigits
    · exact nameParts?_brackets hkind hdigits

theorem isKind_cpu : IsKind "cpu".toList := ⟨by decide, forall_of_all (by decide)⟩

theorem isKind_gpu : IsKind "gpu".toList := ⟨by decide, forall_of_all (by decide)⟩

/-! ## Reading a name -/

/-- What is read of a name. -/
def normal (name : String) : List Char := lower (strip name.toList)

/-- What a name in each of its forms is read as. -/
inductive Reads (name : String) : Except DeviceFault Device → Prop
  | blank (h : normal name = []) : Reads name (.ok cpu)
  | cpu (h : Spells "cpu".toList [] (normal name)) : Reads name (.ok cpu)
  | gpu {digits : List Char} (h : Spells "gpu".toList digits (normal name))
      (hlength : digits.length ≤ maxDigits) : Reads name (.ok (gpu (numberOf digits)))
  | tooLong {digits : List Char} (h : Spells "gpu".toList digits (normal name))
      (hlength : maxDigits < digits.length) : Reads name (.error (.index (.tooLong digits.length)))
  | formless (hne : normal name ≠ []) (hcpu : ¬Spells "cpu".toList [] (normal name))
      (hgpu : ∀ digits, ¬Spells "gpu".toList digits (normal name)) :
      Reads name (.error (.name name))

theorem ofName_eq (name : String) :
    ofName name =
      if normal name = [] then .ok cpu
      else
        match nameParts? (normal name) with
        | none => .error (.name name)
        | some (kind, digits) =>
          if kind = "cpu".toList then if digits.isEmpty then .ok cpu else .error (.name name)
          else if kind = "gpu".toList then
            if digits.isEmpty then .ok (gpu 0)
            else
              match readInteger 10 digits with
              | .ok n => .ok (gpu n)
              | .error fault => .error (.index fault)
          else .error (.name name) := by
  have hnil : normal name = [] ↔ (strip name.toList).isEmpty = true := by
    rw [normal, lower_eq_nil_iff, List.isEmpty_iff]
  simp only [hnil]
  rfl

theorem ofName_of_cpu (h : Spells "cpu".toList [] (normal name)) : ofName name = .ok cpu := by
  have hne : normal name ≠ [] := by
    rcases h.2 with h | h <;> simp [h]
  rw [ofName_eq, if_neg hne, nameParts?_eq_some_iff.2 ⟨isKind_cpu, h⟩]
  rfl

theorem ofName_of_gpu (h : Spells "gpu".toList digits (normal name)) :
    ofName name =
      if maxDigits < digits.length then .error (.index (.tooLong digits.length))
      else .ok (gpu (numberOf digits)) := by
  have hne : normal name ≠ [] := by
    rcases h.2 with h | h <;> simp [h]
  have hkind : "gpu".toList ≠ "cpu".toList := by decide
  rw [ofName_eq, if_neg hne, nameParts?_eq_some_iff.2 ⟨isKind_gpu, h⟩]
  simp only [hkind, if_false, if_true]
  by_cases hdigits : digits = []
  · subst hdigits
    rfl
  · rw [readInteger_digits hdigits h.1]
    by_cases hlength : maxDigits < digits.length <;> simp [hdigits, hlength]

theorem ofName_of_formless (hne : normal name ≠ []) (hcpu : ¬Spells "cpu".toList [] (normal name))
    (hgpu : ∀ digits, ¬Spells "gpu".toList digits (normal name)) :
    ofName name = .error (.name name) := by
  rw [ofName_eq, if_neg hne]
  split
  · rfl
  next kind digits hparts =>
    have hspells := (nameParts?_eq_some_iff.1 hparts).2
    split
    next hkind =>
      subst hkind
      have hdigits : digits ≠ [] := by
        rintro rfl
        exact hcpu hspells
      simp [hdigits]
    · split
      next hkind =>
        subst hkind
        exact absurd hspells (hgpu digits)
      · rfl

/-- Every name has one of the forms, and the forms tell what it is read as. -/
theorem ofName_eq_iff {r : Except DeviceFault Device} : ofName name = r ↔ Reads name r := by
  constructor
  · rintro rfl
    by_cases hne : normal name = []
    · rw [ofName_eq, if_pos hne]
      exact .blank hne
    by_cases hcpu : Spells "cpu".toList [] (normal name)
    · rw [ofName_of_cpu hcpu]
      exact .cpu hcpu
    by_cases hgpu : ∃ digits, Spells "gpu".toList digits (normal name)
    · obtain ⟨digits, hgpu⟩ := hgpu
      rw [ofName_of_gpu hgpu]
      split
      next hlength => exact .tooLong hgpu hlength
      next hlength => exact .gpu hgpu (Nat.le_of_not_lt hlength)
    · have hgpu : ∀ digits, ¬Spells "gpu".toList digits (normal name) := fun ds h => hgpu ⟨ds, h⟩
      rw [ofName_of_formless hne hcpu hgpu]
      exact .formless hne hcpu hgpu
  · intro h
    cases h with
    | blank h => rw [ofName_eq, if_pos h]
    | cpu h => exact ofName_of_cpu h
    | gpu h hlength => rw [ofName_of_gpu h, if_neg (Nat.not_lt.2 hlength)]
    | tooLong h hlength => rw [ofName_of_gpu h, if_pos hlength]
    | formless hne hcpu hgpu => exact ofName_of_formless hne hcpu hgpu

/-! ## Results -/

theorem cpu_ne_gpu (n : Int) : cpu ≠ gpu n := by simp [cpu, gpu]

theorem gpu_inj {m n : Int} : gpu m = gpu n ↔ m = n := by simp [gpu]

theorem spells_nil_iff : Spells kind [] xs ↔ xs ∈ [kind, kind ++ "()".toList] := by
  simp [Spells]

/-- The forms of the CPU. -/
def cpuForms : List (List Char) := ["".toList, "cpu".toList, "cpu()".toList]

/-- The forms of a GPU without digits, which is the first one. -/
def gpuForms : List (List Char) := ["gpu".toList, "gpu()".toList]

/-- A GPU's kind with digits behind it, in brackets or not. -/
def Indexed (digits xs : List Char) : Prop :=
  digits ≠ [] ∧ (∀ c ∈ digits, isDigit c = true) ∧
    (xs = "gpu".toList ++ digits ∨ xs = "gpu(".toList ++ digits ++ ")".toList)

theorem mem_cpuForms_iff : xs ∈ cpuForms ↔ xs = [] ∨ Spells "cpu".toList [] xs := by
  rw [spells_nil_iff]
  simp [cpuForms]

theorem spells_gpu_iff :
    Spells "gpu".toList digits xs ↔ (digits = [] ∧ xs ∈ gpuForms) ∨ Indexed digits xs := by
  by_cases hdigits : digits = []
  · subst hdigits
    rw [spells_nil_iff]
    simp [Indexed, gpuForms]
  · simp [Spells, Indexed, hdigits]

theorem ofName_eq_ok_iff {d : Device} :
    ofName name = .ok d ↔
      (d = cpu ∧ normal name ∈ cpuForms) ∨
        ∃ digits, d = gpu (numberOf digits) ∧ Spells "gpu".toList digits (normal name) ∧
          digits.length ≤ maxDigits := by
  rw [ofName_eq_iff, mem_cpuForms_iff]
  constructor
  · intro h
    cases h with
    | blank h => exact .inl ⟨rfl, .inl h⟩
    | cpu h => exact .inl ⟨rfl, .inr h⟩
    | gpu h hlength => exact .inr ⟨_, rfl, h, hlength⟩
  · rintro (⟨rfl, h | h⟩ | ⟨digits, rfl, h, hlength⟩)
    · exact .blank h
    · exact .cpu h
    · exact .gpu h hlength

theorem ofName_eq_error_iff {f : DeviceFault} :
    ofName name = .error f ↔
      (f = .name name ∧ normal name ∉ cpuForms ++ gpuForms ∧
        ∀ digits, ¬Indexed digits (normal name)) ∨
      ∃ digits, f = .index (.tooLong digits.length) ∧ Indexed digits (normal name) ∧
        maxDigits < digits.length := by
  rw [ofName_eq_iff, List.mem_append, not_or, mem_cpuForms_iff, not_or]
  constructor
  · intro h
    cases h with
    | tooLong h hlength =>
      rcases spells_gpu_iff.1 h with ⟨rfl, -⟩ | hindexed
      · exact absurd hlength (Nat.not_lt_zero _)
      · exact .inr ⟨_, rfl, hindexed, hlength⟩
    | formless hne hcpu hgpu =>
      have hfirst : normal name ∉ gpuForms := fun h => hgpu [] (spells_gpu_iff.2 (.inl ⟨rfl, h⟩))
      exact .inl ⟨rfl, ⟨⟨hne, hcpu⟩, hfirst⟩, fun ds h => hgpu ds (spells_gpu_iff.2 (.inr h))⟩
  · rintro (⟨rfl, ⟨⟨hne, hcpu⟩, hfirst⟩, hindexed⟩ | ⟨digits, rfl, h, hlength⟩)
    · refine .formless hne hcpu fun digits h => ?_
      rcases spells_gpu_iff.1 h with ⟨-, h⟩ | h
      · exact hfirst h
      · exact hindexed digits h
    · exact .tooLong (spells_gpu_iff.2 (.inr h)) hlength

theorem ofName_eq_gpu_iff {n : Nat} :
    ofName name = .ok (gpu n) ↔
      (normal name ∈ gpuForms ∧ n = 0) ∨
        ∃ digits, Indexed digits (normal name) ∧ digits.length ≤ maxDigits ∧
          n = numberOf digits := by
  simp only [ofName_eq_ok_iff, (cpu_ne_gpu _).symm, false_and, false_or, gpu_inj, Int.natCast_inj,
    spells_gpu_iff]
  constructor
  -- no digits stand for zero, which is the index of the first device
  · rintro ⟨digits, hn, ⟨rfl, h⟩ | h, hlength⟩
    · exact .inl ⟨h, hn⟩
    · exact .inr ⟨digits, h, hlength, hn⟩
  · rintro (⟨h, hn⟩ | ⟨digits, h, hlength, hn⟩)
    · exact ⟨[], hn, .inl ⟨rfl, h⟩, Nat.zero_le _⟩
    · exact ⟨digits, hn, .inr h, hlength⟩

theorem readInteger_eq_ok_iff (h : Indexed digits xs) {n : Int} :
    readInteger 10 digits = .ok n ↔ digits.length ≤ maxDigits ∧ n = numberOf digits := by
  rw [readInteger_digits h.1 h.2.1]
  split
  next hlength => simp [Nat.not_le.2 hlength]
  next hlength => simp [Nat.le_of_not_lt hlength, eq_comm]

/-- A name is the CPU exactly in the CPU's forms, and a GPU exactly in those of a GPU: the first one
without digits, else the one that at most 4300 digits stand for.  More digits are refused as a
number, and in every other form the name is refused, so only these devices have names. -/
theorem ofName_forms (name : String) :
    (ofName name = .ok cpu ↔ normal name ∈ cpuForms) ∧
    (∀ n : Nat, ofName name = .ok (gpu n) ↔
      (normal name ∈ gpuForms ∧ n = 0) ∨
        ∃ digits, Indexed digits (normal name) ∧ digits.length ≤ maxDigits ∧
          n = numberOf digits) ∧
    (∀ digits, Indexed digits (normal name) → ∀ n : Int,
      readInteger 10 digits = .ok n ↔ digits.length ≤ maxDigits ∧ n = numberOf digits) ∧
    (∀ f, ofName name = .error f ↔
      (f = .name name ∧ normal name ∉ cpuForms ++ gpuForms ∧
        ∀ digits, ¬Indexed digits (normal name)) ∨
      ∃ digits, f = .index (.tooLong digits.length) ∧ Indexed digits (normal name) ∧
        maxDigits < digits.length) ∧
    ∀ d, ofName name = .ok d → d = ⟨"cpu", -1⟩ ∨ ∃ n : Nat, d = ⟨"gpu", n⟩ := by
  refine ⟨?_, fun n => ofName_eq_gpu_iff, fun digits h n => readInteger_eq_ok_iff h,
    fun f => ofName_eq_error_iff, fun d hd => ?_⟩
  · simp [ofName_eq_ok_iff, cpu_ne_gpu]
  · rcases ofName_eq_ok_iff.1 hd with ⟨rfl, -⟩ | ⟨digits, rfl, -⟩
    · exact .inl rfl
    · exact .inr ⟨_, rfl⟩

/-- Digits of another script in brackets, and a CPU with an index. -/
theorem ofName_forms_script :
    Indexed "٢٣".toList (normal " GPU(٢٣)\n") ∧ ofName " GPU(٢٣)\n" = .ok ⟨"gpu", 23⟩ ∧
      readInteger 10 "٢٣".toList = .ok 23 ∧
      ((⟨"gpu", 23⟩ : Device) = ⟨"cpu", -1⟩ ∨ ∃ n : Nat, (⟨"gpu", 23⟩ : Device) = ⟨"gpu", n⟩) ∧
      ofName "cpu1" = .error (.name "cpu1") := by
  have hindexed : Indexed "٢٣".toList (normal " GPU(٢٣)\n") :=
    ⟨by decide, forall_of_all (by decide +kernel), .inr (by decide +kernel)⟩
  have hlength : "٢٣".toList.length ≤ maxDigits := by decide
  have hnumber : numberOf "٢٣".toList = 23 := by decide +kernel
  have hformless : ∀ digits, ¬Indexed digits (normal "cpu1") := by
    have hhead : (normal "cpu1").head? ≠ some 'g' := by decide +kernel
    rintro digits ⟨-, -, h | h⟩ <;> exact hhead (by rw [h]; rfl)
  obtain ⟨-, hgpu, hread, -, honly⟩ := ofName_forms " GPU(٢٣)\n"
  obtain ⟨-, -, -, herror, -⟩ := ofName_forms "cpu1"
  have hname : ofName " GPU(٢٣)\n" = .ok ⟨"gpu", 23⟩ :=
    (hgpu 23).2 (.inr ⟨_, hindexed, hlength, hnumber.symm⟩)
  exact ⟨hindexed, hname, (hread _ hindexed 23).2 ⟨hlength, by rw [hnumber]; rfl⟩, honly _ hname,
    (herror _).2 (.inl ⟨rfl, by decide +kernel, hformless⟩)⟩

end ModelSearch.Device
