import TypedClient.Document.Display
import TypedClient.Proofs.Number.Layout
import TypedClient.Proofs.Text.Parts

/-!
# What an inline text says

`eq_of_display_eq` says that scalars of one type with one inline text are equal. Lists and mappings
are left out: blanks and brackets inside texts make their inline texts ambiguous.
-/

namespace TypedClient.Value

/-- Whether a value is neither a list nor a mapping. Of the NaNs only the quiet one counts, since
all have one text. -/
def IsScalar : Value → Prop
  | .list _ | .mapping _ => False
  | .float x => x.isNaN = true → x = .nan
  | _ => True

instance (v : Value) : Decidable v.IsScalar :=
  match v with
  | .null | .bool _ | .int _ | .int64 _ | .uint _ | .text _ => isTrue trivial
  | .float x => inferInstanceAs (Decidable (x.isNaN = true → x = .nan))
  | .list _ | .mapping _ => isFalse id

/-- The text of a whole number is its sign and its digits. -/
theorem toList_toString_int (n : Int) :
    (toString n).toList = Layout.signText (n < 0) ++ Nat.toDigits 10 n.natAbs := by
  cases n with
  | ofNat m => exact Nat.toList_repr
  | negSucc m =>
      show ("-" ++ Nat.repr (m + 1)).toList = _
      have hneg : decide (Int.negSucc m < 0) = true := decide_eq_true (Int.negSucc_lt_zero m)
      rw [String.toList_append, Nat.toList_repr, hneg]
      rfl

/-- Whole numbers with one text are equal. -/
theorem int_eq_of_toString_eq {m n : Int} (h : toString m = toString n) : m = n := by
  have htext : (toString m).toList = (toString n).toList := by rw [h]
  obtain ⟨c, cs, hm, hc⟩ := Layout.exists_cons_toDigits m.natAbs
  obtain ⟨d, ds, hn, hd⟩ := Layout.exists_cons_toDigits n.natAbs
  rw [toList_toString_int, toList_toString_int, hm, hn] at htext
  obtain ⟨hsign, hdigits⟩ := Layout.signText_inj (hc c List.mem_cons_self)
    (hd d List.mem_cons_self) htext
  have hsign : m < 0 ↔ n < 0 := decide_eq_decide.1 hsign
  have habs : m.natAbs = n.natAbs := Text.toDigits_injective (by rw [hm, hn, hdigits])
  omega

/-- Natural numbers with one text are equal. -/
theorem nat_eq_of_toString_eq {m n : Nat} (h : toString m = toString n) : m = n := by
  have hrepr : m.repr = n.repr := h
  exact Text.toDigits_injective (by rw [← Nat.toList_repr, hrepr, Nat.toList_repr])

/-- Scalars of one type with one inline text are equal. -/
theorem eq_of_display_eq {v w : Value} (hv : v.IsScalar) (hw : w.IsScalar)
    (htype : v.typeName = w.typeName) (h : v.display = w.display) : v = w := by
  cases v with
  | null =>
      cases w with
      | null => rfl
      | _ => simp [typeName] at htype
  | bool b =>
      cases w with
      | bool c =>
          have hbool : ∀ b c : Bool, display (.bool b) = display (.bool c) → b = c := by
            decide
          rw [hbool b c h]
      | _ => simp [typeName] at htype
  | int n =>
      cases w with
      | int m => rw [int_eq_of_toString_eq h]
      | _ => simp [typeName] at htype
  | int64 n =>
      cases w with
      | int64 m => rw [int_eq_of_toString_eq h]
      | _ => simp [typeName] at htype
  | uint n =>
      cases w with
      | uint m => rw [nat_eq_of_toString_eq h]
      | _ => simp [typeName] at htype
  | float x =>
      cases w with
      | float y => rw [Layout.general.number_injective hv hw h]
      | _ => simp [typeName] at htype
  | text s =>
      cases w with
      | text t => exact congrArg text h
      | _ => simp [typeName] at htype
  | list items => exact absurd hv id
  | mapping entries => exact absurd hv id

end TypedClient.Value
