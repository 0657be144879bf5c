import EventRules.Number
import EventRules.Proofs.Text.Digits
import Mathlib.Tactic.SplitIfs

/-!
# Integers as text

An integer of a rule is read from the text that it is written as (`Number.read?_render_integer`).
-/

namespace EventRules

open Decimal (Layout)

namespace Digits

theorem readInt?_integer (n : Int) : readInt? 10 (Layout.integer n) = some n := by
  have hread : read? 10 (Nat.toDigits 10 n.natAbs) = some n.natAbs := read?_toDigits (by decide) (by decide) _
  rw [readInt?, Layout.integer]
  split_ifs with hneg
  · have hn : -(n.natAbs : Int) = n := by omega
    simp only [splitSign, hread]
    show some (-(n.natAbs : Int)) = some n
    rw [hn]
  · have hn : (n.natAbs : Int) = n := by omega
    simp [splitSign_digits isDigit_of_mem_toDigits, hread, hn]

theorem readInt64?_integer (value : Int64) : readInt64? (Layout.integer value.toInt) = some value := by
  rw [readInt64?, readInt?_integer, Option.bind_some, if_pos (inInt64_toInt value), Int64.ofInt_toInt]

end Digits

namespace Number

theorem read?_render_integer (value : Int64) : read? (integer value).render.toList = some (integer value) := by
  rw [render, String.toList_ofList, read?, Digits.readInt64?_integer]

theorem mem_render_integer {value : Int64} {c : Char} (h : c ∈ (integer value).render.toList) :
    c.isDigit ∨ c = '-' := by
  rw [render, String.toList_ofList, Layout.integer] at h
  split at h
  · rcases List.mem_cons.1 h with rfl | h
    · exact .inr rfl
    · exact .inl (Digits.isDigit_of_mem_toDigits c h)
  · exact .inl (Digits.isDigit_of_mem_toDigits c h)

end Number

end EventRules
