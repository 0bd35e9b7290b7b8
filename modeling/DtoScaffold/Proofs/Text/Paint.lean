import DtoScaffold.Text.Paint
import Mathlib.Data.List.Basic

/-!
# Painted texts are told apart

What is painted can be read off the painted text: the paint adds its codes around the text and after
each reset in it, and it never makes a reset of characters that were none before.
-/
namespace DtoScaffold.Text

variable {code cs more rest : List Char} {c : Char}

theorem repaint_reset (code rest : List Char) :
    repaint code (resetCode ++ rest) = resetCode ++ code ++ repaint code rest :=
  rfl

theorem repaint_cons (plain : ¬ resetCode <+: c :: rest) :
    repaint code (c :: rest) = c :: repaint code rest := by
  rw [repaint]
  rintro later rfl rfl
  exact plain ⟨later, rfl⟩

/-- A character that starts no code was there before. -/
theorem repaint_eq_cons (apart : c ≠ '\x1b') (painted : repaint code cs = c :: more) :
    ∃ rest, cs = c :: rest ∧ repaint code rest = more := by
  cases cs with
  | nil => cases painted
  | cons first rest =>
    by_cases reset : resetCode <+: first :: rest
    · obtain ⟨rest, start⟩ := reset
      rw [← start, repaint_reset] at painted
      exact absurd (List.cons.inj painted).1.symm apart
    · rw [repaint_cons reset] at painted
      obtain ⟨rfl, same⟩ := List.cons.inj painted
      exact ⟨rest, rfl, same⟩

/-- Painting neither makes nor loses a reset at the start. -/
theorem resetCode_prefix_repaint_iff (code : List Char) :
    resetCode <+: repaint code cs ↔ resetCode <+: cs := by
  constructor
  · rintro ⟨more, start⟩
    by_contra plain
    cases cs with
    | nil => cases start
    | cons first rest =>
      rw [repaint_cons plain] at start
      obtain ⟨rfl, behind⟩ := List.cons.inj start
      -- The other characters of a reset start no code, so they were there one after the other.
      obtain ⟨second, rfl, behindSecond⟩ := repaint_eq_cons (by decide) behind.symm
      obtain ⟨third, rfl, behindThird⟩ := repaint_eq_cons (by decide) behindSecond
      obtain ⟨last, rfl, _⟩ := repaint_eq_cons (by decide) behindThird
      exact plain ⟨last, rfl⟩
  · rintro ⟨rest, rfl⟩
    rw [repaint_reset, List.append_assoc]
    exact List.prefix_append _ _

theorem repaint_injective (code : List Char) : Function.Injective (repaint code) := by
  intro first second same
  -- Where one text starts with a reset, so does the other; else both keep their first character.
  fun_induction repaint code first generalizing second with
  | case1 rest ih =>
    have reset : resetCode <+: second := by
      rw [← resetCode_prefix_repaint_iff code, ← same, List.append_assoc]
      exact List.prefix_append _ _
    obtain ⟨other, rfl⟩ := reset
    rw [repaint_reset, List.append_right_inj] at same
    exact congrArg (resetCode ++ ·) (ih same)
  | case2 c rest plain ih =>
    have unpainted : ¬ resetCode <+: c :: rest := by
      rintro ⟨later, start⟩
      obtain ⟨rfl, rfl⟩ := List.cons.inj start
      exact plain later rfl rfl
    have unpaintedToo : ¬ resetCode <+: second := by
      rw [← resetCode_prefix_repaint_iff code, ← same, ← repaint_cons unpainted,
        resetCode_prefix_repaint_iff code]
      exact unpainted
    cases second with
    | nil => cases same
    | cons d other =>
      rw [repaint_cons unpaintedToo] at same
      obtain ⟨rfl, later⟩ := List.cons.inj same
      rw [ih later]
  | case3 =>
    cases second with
    | nil => rfl
    | cons d other =>
      by_cases reset : resetCode <+: d :: other
      · obtain ⟨rest, start⟩ := reset
        rw [← start] at same
        cases same
      · rw [repaint_cons reset] at same
        cases same

theorem painted_injective (colored : Bool) (paint : Paint) :
    Function.Injective (painted colored paint) := by
  intro first second same
  cases colored with
  | false => exact same
  | true =>
    simp only [painted, if_true, String.ofList_inj, List.append_left_inj,
      List.append_right_inj] at same
    exact String.toList_inj.mp (repaint_injective _ same)

end DtoScaffold.Text
