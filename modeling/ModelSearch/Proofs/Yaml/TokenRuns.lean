import ModelSearch.Proofs.Yaml.PlainTokens

/-!
# Runs of the token reader

A reader that goes on without a fault finishes with all the tokens of its document.  What steps lead
to is composed from back to front: from wherever the rest is known to finish.

    Finishes n s ts          `s` finishes within `n` steps, and the tokens are `ts`
    Leads n s t              whatever `t` finishes with, `s` does within `n` steps more
    s.atToken = t.atToken    readers at one token take the same step                    (leads_atToken)
-/

namespace ModelSearch.Yaml

namespace TokenReader

/-- Within a number of steps and without a fault all the tokens are read. -/
inductive Finishes : Nat → TokenReader → List Token → Prop
  | done {s : TokenReader} (n : Nat) (h : s.done = true) : Finishes n s s.reversed.reverse
  | step {n : Nat} {s t : TokenReader} {ts : List Token} (hdone : s.done = false)
    (hstep : s.step = .ok t) (h : Finishes n t ts) : Finishes (n + 1) s ts

variable {s t u : TokenReader} {m n : Nat} {ts : List Token}

theorem Finishes.mono (h : Finishes m s ts) (hn : m ≤ n) : Finishes n s ts := by
  induction h generalizing n with
  | done _ h => exact .done n h
  | step hdone hstep _ ih =>
    obtain ⟨n, rfl⟩ : ∃ k, n = k + 1 := Nat.exists_eq_add_of_le' (by omega)
    exact .step hdone hstep (ih (by omega))

theorem Finishes.run (h : Finishes n s ts) {fuel : Nat} (hfuel : n ≤ fuel) : run fuel s = ts := by
  induction h generalizing fuel with
  | done _ h => exact run_done h fuel
  | step hdone hstep _ ih =>
    obtain ⟨fuel, rfl⟩ : ∃ k, fuel = k + 1 := Nat.exists_eq_add_of_le' (by omega)
    rw [run_succ, hdone, hstep]
    exact ih (by omega)

/-- Whatever `t` finishes with, `s` finishes with it too, within `n` steps more. -/
def Leads (n : Nat) (s t : TokenReader) : Prop := ∀ m ts, Finishes m t ts → Finishes (m + n) s ts

theorem Leads.refl (n : Nat) (s : TokenReader) : Leads n s s := fun _ _ h =>
  h.mono (Nat.le_add_right _ _)

theorem Leads.trans (h : Leads m s t) (k : Leads n t u) : Leads (m + n) s u := by
  intro i ts hu
  exact (h _ _ (k i ts hu)).mono (by omega)

theorem Leads.mono (h : Leads m s t) (hn : m ≤ n) : Leads n s t := fun i ts ht =>
  (h i ts ht).mono (by omega)

theorem leads_step (hdone : s.done = false) (h : s.step = .ok t) : Leads 1 s t := fun _ _ ht =>
  .step hdone h ht

/-- Readers that come to the same token take the same step. -/
theorem leads_atToken (hs : s.done = false) (ht : t.done = false) (h : s.atToken = t.atToken) :
    Leads 0 s t := by
  intro m ts hfinish
  cases hfinish with
  | done _ hdone => exact absurd (ht.symm.trans hdone) Bool.false_ne_true
  | step _ hstep hrest => exact .step hs (by rw [step_eq, h, ← step_eq, hstep]) hrest

end TokenReader

end ModelSearch.Yaml
