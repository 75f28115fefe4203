import Mathlib
import ExprFront.Proofs.Fuel.Levels

/-!
# Fuel enough for string literals and f-strings

A run of adjacent literals, an f-string and its parts, a field and its format spec, with one
more unit of fuel, are settled when the productions they call are. Every loop here takes a
token, a whole f-string or a whole field before it goes round again, so it goes round on less
input.
-/

namespace ExprFront

namespace Grammar

open TokenStream ParseM

variable {ts : TokenStream} {n : Nat} (hts : ts.EndsWithEof) (ih : Settles ts n)
include hts ih

lemma strings_settles : ∀ start parts bytes, Enough ts (n + 1) 1 (strings start parts bytes) := by
  intro start parts bytes p hp hb
  rw [strings.eq_2, strings.eq_2]
  refine Settled.of_ok_bind (run_current ts p) ?_
  extract_lets jp jp'
  have hjp : ∀ next q, (next = none → q = p) → (next.isSome → ts.Past p q) →
      Settled ts (jp next) (jp' next) q fun _ r => ts.Within p r := by
    intro next q hnone hsome
    simp only [jp, jp']
    split
    · have hq := hsome rfl
      split
      · exact Settled.of_ok_bind (run_previousSpan ts q) (settled_failAt (by decide))
      · exact (ih.strings _ _ _ q hq.2 (hb.past hp hq.1 (by decide))).mono
          fun _ _ h => (hq.trans_within h).within
    · rw [hnone rfl]
      split
      · exact settled_pure (within_refl hp)
      · exact Settled.of_ok_bind (run_previousSpan ts p) (settled_storeList_bind fun _ => settled_pure (within_refl hp))
  clear_value jp jp'
  split
  · rename_i hk
    simp only [pure_bind]
    exact Settled.of_ok_bind run_discard_advance
      (hjp _ _ (by simp) fun _ => past_next hts hp (by simp [hk]))
  · rename_i hk
    simp only [pure_bind]
    exact (ih.fstring p hp (by simp [hk]) (hb.down le_rfl (by decide))).bind
      fun e q hq _ => hjp _ _ (by simp) fun _ => hq
  · simp only [pure_bind]
    exact hjp _ _ (fun _ => rfl) (by simp)

lemma fstring_settles : EnoughPast ts (n + 1) 0 fstring := by
  intro p hp hk hb
  rw [fstring.eq_2, fstring.eq_2]
  have h₁ := past_next hts hp hk
  refine Settled.of_ok_bind (run_advance ts p) ?_
  split
  · exact (ih.fstringParts _ _ _ _ h₁.2 (hb.past hp h₁.1 (by decide))).mono
      fun _ _ h => h₁.trans_within h
  · exact settled_failAt (by decide)

lemma fstringParts_settles : ∀ d start acc, Enough ts (n + 1) 2 (fstringParts d start acc) := by
  intro d start acc p hp hb
  rw [fstringParts.eq_2, fstringParts.eq_2]
  refine Settled.of_ok_bind (run_current ts p) ?_
  split
  · rename_i hk
    have h₁ := past_next hts hp (by simp [hk])
    refine Settled.of_ok_bind run_discard_advance ?_
    exact (ih.fstringParts _ _ _ _ h₁.2 (hb.past hp h₁.1 (by decide))).mono
      fun _ _ h => (h₁.trans_within h).within
  · rename_i hk
    refine (ih.field p hp (by simp [hk]) (hb.down le_rfl (by decide))).bind fun f q hq _ => ?_
    exact (ih.fstringParts _ _ _ q hq.2 (hb.past hp hq.1 (by decide))).mono
      fun _ _ h => (hq.trans_within h).within
  · exact Settled.of_ok_bind run_discard_advance (settled_storeList_bind fun _ => settled_pure (within_next hp))
  · exact settled_failUnexpected (by decide)

omit hts in
lemma field_settles : EnoughPast ts (n + 1) 1 field := by
  intro p hp hk hb
  rw [field.eq_2, field.eq_2]
  exact (ih.fieldContents p hp hk (hb.down le_rfl (by decide))).withContext

lemma fieldContents_settles : EnoughPast ts (n + 1) 0 fieldContents := by
  intro p hp hk hb
  rw [fieldContents.eq_2, fieldContents.eq_2]
  have h₁ := past_next hts hp hk
  refine Settled.of_ok_bind (run_advance ts p) ?_
  refine Settled.of_ok_bind (run_check ts _ _) (Settled.ite
    (fun _ => Settled.of_ok_bind (run_currentSpan ts _) (settled_failAt (by decide))) fun _ => ?_)
  refine (ih.fieldExpression _ h₁.2 (hb.past hp h₁.1 (by decide))).bind fun e q hq _ => ?_
  have hq' := h₁.trans_within hq
  extract_lets jp₁ jp₁'
  have hjp₁ : ∀ debug q₁, ts.Past p q₁ →
      Settled ts (jp₁ debug) (jp₁' debug) q₁ fun _ r => ts.Past p r := by
    intro debug q₁ hq₁
    simp -zeta only [jp₁, jp₁']
    refine Settled.of_ok_bind (run_check ts _ _) ?_
    extract_lets jp₂ jp₂'
    have hjp₂ : ∀ conv q₂, ts.Past p q₂ →
        Settled ts (jp₂ conv) (jp₂' conv) q₂ fun _ r => ts.Past p r := by
      intro conv q₂ hq₂
      simp -zeta only [jp₂, jp₂']
      refine settled_eat.bind fun c q₃ ⟨hc₁, hc₂⟩ _ => ?_
      have hq₃ := hq₂.trans_within (within_of_eat hq₂.2 ⟨hc₁, hc₂⟩)
      extract_lets jp₃
      have hjp₃ : ∀ spec q₄, ts.Past p q₄ →
          Settled ts (jp₃ spec) (jp₃ spec) q₄ fun _ r => ts.Past p r := by
        intro spec q₄ hq₄
        simp only [jp₃]
        refine Settled.of_ok_bind (run_current ts _) (Settled.ite (fun _ => settled_throw ?_)
          fun _ => Settled.of_ok_bind run_discard_advance
            (settled_pure (hq₄.trans_within (within_next hq₄.2))))
        split
        · rw [SyntaxError.outOfFuel_withinContext]
          exact not_outOfFuel_of_message (by decide) _ _ _
        · exact not_outOfFuel_of_message (by decide) _ _ _
      clear_value jp₃
      refine Settled.ite (fun _ => ?_) fun _ => ?_
      · exact (ih.formatSpec #[] q₃ hq₃.2 (hb.past hp hq₃.1 (by decide))).map.bind
          fun _ r ⟨_, _, hr⟩ _ => hjp₃ _ _ (hq₃.trans_within hr)
      · exact Settled.of_ok_bind rfl (hjp₃ _ _ hq₃)
    clear_value jp₂ jp₂'
    refine Settled.ite (fun _ => ?_) fun _ => ?_
    · exact (settled_conversion hq₁.2).map.bind
        fun _ r ⟨_, _, hr⟩ _ => hjp₂ _ _ (hq₁.trans_within hr)
    · exact Settled.of_ok_bind rfl (hjp₂ _ _ hq₁)
  clear_value jp₁ jp₁'
  refine settled_eat_bind (fun hk => ?_) fun _ => Settled.of_ok_bind rfl (hjp₁ _ _ hq')
  exact Settled.of_ok_bind (run_currentSpan ts _)
    (Settled.of_ok_bind rfl (hjp₁ _ _ (hq'.trans_within (within_next hq'.2))))

lemma formatSpec_settles : ∀ acc, Enough ts (n + 1) 2 (formatSpec acc) := by
  intro acc p hp hb
  rw [formatSpec.eq_2, formatSpec.eq_2]
  refine Settled.of_ok_bind (run_current ts p) ?_
  split
  · rename_i hk
    have h₁ := past_next hts hp (by simp [hk])
    refine Settled.of_ok_bind run_discard_advance ?_
    exact (ih.formatSpec _ _ h₁.2 (hb.past hp h₁.1 (by decide))).mono
      fun _ _ h => (h₁.trans_within h).within
  · rename_i hk
    refine (ih.field p hp (by simp [hk]) (hb.down le_rfl (by decide))).bind fun f q hq _ => ?_
    exact (ih.formatSpec _ q hq.2 (hb.past hp hq.1 (by decide))).mono
      fun _ _ h => (hq.trans_within h).within
  · exact settled_storeList_bind fun _ => settled_pure (within_refl hp)

end Grammar

end ExprFront
