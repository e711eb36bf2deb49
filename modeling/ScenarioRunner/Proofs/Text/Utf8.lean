import Mathlib.Algebra.Ring.Nat
import Mathlib.Tactic.Common
import ScenarioRunner.Proofs.Files.Paths
import ScenarioRunner.Text.Utf8

/-!
# ASCII characters in bytes

An ASCII byte is a character of its own, also where bytes are no text: it ends what is ill-formed
before it.  So text can be cut at ASCII characters before or after it is decoded.

* `Utf8.Pending.Wide` holds of the states that the decoder reaches: no ASCII byte continues a
  character, and no character of several bytes is an ASCII one.
* `Utf8.run_append_ascii`: what stands behind an ASCII byte is decoded on its own.
* `Utf8.mem_of_mem_decodeLossy`: each ASCII character comes from its byte.
* `Utf8.splitOn_decodeLossy`: the parts between ASCII characters are the texts between their bytes.

The null character is left out, which also stands for numbers that are no characters.
-/

namespace ScenarioRunner.Text.Utf8

variable {p : Pending} {b : UInt8} {c : Char} {bytes : List UInt8}

/-- The state of a character that is not complete: its next byte is no ASCII byte, and whatever its
bytes are it becomes no ASCII character. -/
def Pending.Wide : Pending → Prop
  | .idle => True
  | .inside low _ left code => 0x80 ≤ low ∧ 0x80 ≤ (code * 64 + (low - 0x80)) * 64 ^ (left - 1)

lemma wide_lead (b : UInt8) : (lead b).1.Wide := by
  unfold lead
  dsimp only
  repeat' split
  all_goals simp only [Pending.Wide]
  all_goals omega

lemma wide_step (h : p.Wide) (b : UInt8) : (step p b).1.Wide := by
  cases p with
  | idle => exact wide_lead b
  | inside low high left code =>
      obtain ⟨hlow, hcode⟩ := h
      unfold step
      dsimp only
      split
      · next hb =>
        split
        · trivial
        · next hleft =>
          have hpow : 64 * 64 ^ (left - 1 - 1) = 64 ^ (left - 1) := by
            rw [← Nat.pow_succ']
            congr 1
            omega
          refine ⟨Nat.le_refl _, ?_⟩
          rw [Nat.sub_self, Nat.add_zero, Nat.mul_assoc, hpow]
          exact hcode.trans (Nat.mul_le_mul_right _ (by omega))
      · exact wide_lead b

/-- **An ASCII byte ends what is before it**, and is a character. -/
lemma step_ascii (h : p.Wide) (hb : b.toNat < 0x80) :
    step p b = (.idle, flush p ++ [some (Char.ofNat b.toNat)]) := by
  cases p with
  | idle => simp [step, lead, flush, hb]
  | inside low high left code =>
      have hout : ¬ (low ≤ b.toNat ∧ b.toNat ≤ high) := fun hin =>
        absurd (h.1.trans hin.1) (Nat.not_le.mpr hb)
      simp [step, lead, flush, hb, hout]

/-- What stands behind an ASCII byte is decoded on its own. -/
lemma run_append_ascii (h : p.Wide) (hb : b.toNat < 0x80) (before behind : List UInt8) :
    run p (before ++ b :: behind) =
      run p before ++ some (Char.ofNat b.toNat) :: run .idle behind := by
  induction before generalizing p with
  | nil => simp [run, step_ascii h hb]
  | cons a before ih => simp only [List.cons_append, run, ih (wide_step h a), List.append_assoc]

/-- The characters that a byte completes are no ASCII ones, unless the byte is. -/
lemma eq_of_mem_step (h : p.Wide) (hmem : some c ∈ (step p b).2) (hnull : c.toNat ≠ 0)
    (hc : c.toNat < 0x80) : b.toNat = c.toNat := by
  have hofNat : ∀ {n : Nat}, c = Char.ofNat n → n = c.toNat := by
    rintro n rfl
    by_cases hvalid : n.isValidChar
    · rw [Char.ofNat, dif_pos hvalid]
      rfl
    · rw [Char.ofNat, dif_neg hvalid] at hnull
      exact absurd rfl hnull
  have hlead : some c ∈ (lead b).2 → b.toNat = c.toNat := by
    unfold lead
    dsimp only
    repeat' split
    all_goals simp only [List.mem_singleton, List.not_mem_nil, Option.some.injEq, reduceCtorEq,
      false_implies]
    exact hofNat
  cases p with
  | idle => exact hlead hmem
  | inside low high left code =>
      unfold step at hmem
      dsimp only at hmem
      split at hmem
      · next hb =>
        split at hmem
        · next hleft =>
          -- the character is complete, and `Wide` bounds its code from below
          have hcode := hofNat (Option.some.inj (List.mem_singleton.mp hmem))
          have hwide := h.2
          rw [Nat.sub_eq_zero_of_le hleft, Nat.pow_zero, Nat.mul_one] at hwide
          omega
        · exact absurd hmem List.not_mem_nil
      · exact hlead (List.mem_of_ne_of_mem (by simp) hmem)

lemma mem_of_mem_run (h : p.Wide) (hmem : some c ∈ run p bytes) (hnull : c.toNat ≠ 0)
    (hc : c.toNat < 0x80) : UInt8.ofNat c.toNat ∈ bytes := by
  induction bytes generalizing p with
  | nil => cases p <;> simp [run, flush] at hmem
  | cons b bytes ih =>
      rcases List.mem_append.mp hmem with hmem | hmem
      · rw [← eq_of_mem_step h hmem hnull hc, UInt8.ofNat_toNat]
        exact List.mem_cons_self
      · exact List.mem_cons_of_mem b (ih (wide_step h b) hmem)

/-- **Each ASCII character comes from its byte.** -/
theorem mem_of_mem_decodeLossy (hmem : c ∈ decodeLossy bytes) (hnull : c.toNat ≠ 0)
    (hc : c.toNat < 0x80) : UInt8.ofNat c.toNat ∈ bytes := by
  obtain ⟨found, hfound, hread⟩ := List.mem_map.mp hmem
  cases found with
  | none =>
      rw [← hread] at hc
      exact absurd hc (by decide)
  | some found =>
      obtain rfl : found = c := hread
      exact mem_of_mem_run (p := .idle) trivial hfound hnull hc

/-- A byte that completes no character leaves a state that is no character either. -/
lemma flush_ne_nil_of_step (hnone : (step p b).2 = []) : flush (step p b).1 ≠ [] := by
  have hlead : (lead b).2 = [] → flush (lead b).1 ≠ [] := by
    unfold lead
    dsimp only
    repeat' split
    all_goals simp [flush]
  cases p with
  | idle => exact hlead hnone
  | inside low high left code =>
      unfold step at hnone ⊢
      dsimp only at hnone ⊢
      split at hnone
      · next hb =>
        rw [if_pos hb]
        split at hnone
        · exact absurd hnone (List.cons_ne_nil _ _)
        · next hleft =>
          rw [if_neg hleft]
          exact List.cons_ne_nil _ _
      · exact absurd hnone (List.cons_ne_nil _ _)

lemma run_ne_nil (h : flush p ≠ [] ∨ bytes ≠ []) : run p bytes ≠ [] := by
  induction bytes generalizing p with
  | nil => exact h.resolve_right (fun hne => hne rfl)
  | cons b bytes ih =>
      rw [run, Ne, List.append_eq_nil_iff]
      rintro ⟨hnone, hrest⟩
      exact ih (.inl (flush_ne_nil_of_step hnone)) hrest

@[simp] lemma decodeLossy_nil : decodeLossy [] = [] := rfl

lemma decodeLossy_eq_nil_iff : decodeLossy bytes = [] ↔ bytes = [] := by
  refine ⟨fun h => ?_, fun h => h ▸ rfl⟩
  by_contra hbytes
  exact run_ne_nil (.inr hbytes) (List.map_eq_nil_iff.mp h)

lemma decodeLossy_append_ascii (hb : b.toNat < 0x80) (before behind : List UInt8) :
    decodeLossy (before ++ b :: behind) =
      decodeLossy before ++ Char.ofNat b.toNat :: decodeLossy behind := by
  simp only [decodeLossy, run_append_ascii (p := .idle) trivial hb, List.map_append, List.map_cons,
    Option.getD_some]

lemma decodeLossy_intercalate (hb : b.toNat < 0x80) (parts : List (List UInt8)) :
    decodeLossy ([b].intercalate parts) =
      [Char.ofNat b.toNat].intercalate (parts.map decodeLossy) := by
  induction parts with
  | nil => rfl
  | cons part parts ih =>
      cases parts with
      | nil => simp
      | cons next parts =>
          rw [List.intercalate_cons_cons, List.map_cons, List.map_cons, List.intercalate_cons_cons,
            ← List.map_cons, ← ih]
          simp [decodeLossy_append_ascii hb]

/-- The parts between separators have the other elements of the list. -/
lemma of_mem_splitOn {part : List UInt8} {a : UInt8} (h : part ∈ bytes.splitOn b) (ha : a ∈ part) :
    a ≠ b ∧ a ∈ bytes := by
  induction bytes generalizing part with
  | nil => simp_all
  | cons b' bytes ih =>
      have ih {part : List UInt8} (h : part ∈ bytes.splitOn b) (ha : a ∈ part) :
          a ≠ b ∧ a ∈ b' :: bytes :=
        (ih h ha).imp_right (List.mem_cons_of_mem b')
      rw [List.splitOn_cons_eq_if_modifyHead] at h
      split at h
      · rcases List.mem_cons.mp h with rfl | h
        · exact absurd ha List.not_mem_nil
        · exact ih h ha
      · next hne =>
        cases hparts : bytes.splitOn b with
        | nil => exact absurd hparts (List.splitOn_ne_nil b bytes)
        | cons first parts =>
            rw [hparts] at ih
            rw [hparts, List.modifyHead_cons] at h
            rcases List.mem_cons.mp h with rfl | h
            · rcases List.mem_cons.mp ha with rfl | ha
              · exact ⟨fun heq => hne (beq_iff_eq.mpr heq), List.mem_cons_self⟩
              · exact ih List.mem_cons_self ha
            · exact ih (List.mem_cons_of_mem first h) ha

/-- **The parts of a text between ASCII characters** are the texts of the bytes between theirs. -/
theorem splitOn_decodeLossy (hnull : b.toNat ≠ 0) (hb : b.toNat < 0x80) (bytes : List UInt8) :
    splitOn (Char.ofNat b.toNat) (decodeLossy bytes) = (bytes.splitOn b).map decodeLossy := by
  have hsep : (Char.ofNat b.toNat).toNat = b.toNat := by
    rw [Char.ofNat, dif_pos (Or.inl (hb.trans (by decide)))]
    rfl
  have hparts : ∀ part ∈ (bytes.splitOn b).map decodeLossy, Char.ofNat b.toNat ∉ part := by
    rintro _ hmap hmem
    obtain ⟨part, hpart, rfl⟩ := List.mem_map.mp hmap
    have hbyte := mem_of_mem_decodeLossy hmem (by rwa [hsep]) (by rwa [hsep])
    rw [hsep, UInt8.ofNat_toNat] at hbyte
    exact (of_mem_splitOn hpart hbyte).1 rfl
  have hne : (bytes.splitOn b).map decodeLossy ≠ [] :=
    mt List.map_eq_nil_iff.mp (List.splitOn_ne_nil b bytes)
  calc splitOn (Char.ofNat b.toNat) (decodeLossy bytes)
      = (decodeLossy ([b].intercalate (bytes.splitOn b))).splitOn (Char.ofNat b.toNat) := by
        rw [splitOn_eq, List.intercalate_splitOn]
    _ = (bytes.splitOn b).map decodeLossy := by
        rw [decodeLossy_intercalate hb, List.splitOn_intercalate _ hparts hne]

end ScenarioRunner.Text.Utf8
