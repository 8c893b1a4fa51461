/-! The order of texts by their UTF-8 bytes. It is the order by characters: the bytes of the lower
of two characters are lower in the first place where they differ, and neither begins with the
other. -/
namespace CartCriteria.Text

def bytes8 (s : String) : List UInt8 :=
  s.toUTF8.data.toList

/-- The bytes of a text are those of its characters, one after another. -/
theorem bytes8_eq (s : String) : bytes8 s = s.toList.flatMap String.utf8EncodeChar := by
  rw [bytes8, String.toUTF8, ← String.ofList_toList (s := s), String.toByteArray_ofList]
  simp [List.utf8Encode]

private theorem utf8EncodeChar_cases (c : Char) :
    c.toNat < 0x80 ∧ String.utf8EncodeChar c = [.ofNat c.toNat] ∨
    0x80 ≤ c.toNat ∧ c.toNat < 0x800 ∧
      String.utf8EncodeChar c =
        [.ofNat (c.toNat / 64 % 32 + 192), .ofNat (c.toNat % 64 + 128)] ∨
    0x800 ≤ c.toNat ∧ c.toNat < 0x10000 ∧
      String.utf8EncodeChar c =
        [.ofNat (c.toNat / 4096 % 16 + 224), .ofNat (c.toNat / 64 % 64 + 128),
          .ofNat (c.toNat % 64 + 128)] ∨
    0x10000 ≤ c.toNat ∧ c.toNat < 0x110000 ∧
      String.utf8EncodeChar c =
        [.ofNat (c.toNat / 262144 % 8 + 240), .ofNat (c.toNat / 4096 % 64 + 128),
          .ofNat (c.toNat / 64 % 64 + 128), .ofNat (c.toNat % 64 + 128)] := by
  have hscalar : c.toNat < 0xD800 ∨ 0xDFFF < c.toNat ∧ c.toNat < 0x110000 := c.valid
  simp only [String.utf8EncodeChar, Char.toNat_val]
  split
  · exact .inl ⟨by omega, rfl⟩
  · split
    · exact .inr (.inl ⟨by omega, by omega, rfl⟩)
    · split
      · exact .inr (.inr (.inl ⟨by omega, by omega, rfl⟩))
      · exact .inr (.inr (.inr ⟨by omega, by omega, rfl⟩))

private theorem utf8EncodeChar_append_lt {c d : Char} (h : c < d) (us vs : List UInt8) :
    String.utf8EncodeChar c ++ us < String.utf8EncodeChar d ++ vs := by
  have hlt : c.toNat < d.toNat := h
  rcases utf8EncodeChar_cases c with ⟨_, hc⟩ | ⟨_, _, hc⟩ | ⟨_, _, hc⟩ | ⟨_, _, hc⟩ <;>
  rcases utf8EncodeChar_cases d with ⟨_, hd⟩ | ⟨_, _, hd⟩ | ⟨_, _, hd⟩ | ⟨_, _, hd⟩ <;>
  simp (disch := omega) only [hc, hd, List.cons_append, List.nil_append, List.cons_lt_cons_iff,
    UInt8.lt_iff_toNat_lt, ← UInt8.toNat_inj, UInt8.toNat_ofNat', Nat.mod_eq_of_lt] <;>
  omega

private theorem utf8EncodeChar_eq_cons (c : Char) : ∃ u us, String.utf8EncodeChar c = u :: us := by
  rcases utf8EncodeChar_cases c with ⟨_, hc⟩ | ⟨_, _, hc⟩ | ⟨_, _, hc⟩ | ⟨_, _, hc⟩
  · exact ⟨_, _, hc⟩
  · exact ⟨_, _, hc⟩
  · exact ⟨_, _, hc⟩
  · exact ⟨_, _, hc⟩

private theorem append_lt_append_iff (us as bs : List UInt8) : us ++ as < us ++ bs ↔ as < bs := by
  induction us with
  | nil => rfl
  | cons u us ih =>
    rw [List.cons_append, List.cons_append, List.cons_lt_cons_iff, ih]
    simp

/-- One text is below another exactly when its bytes are. -/
theorem lt_iff_bytes8_lt (s t : String) : s < t ↔ bytes8 s < bytes8 t := by
  rw [String.lt_iff, bytes8_eq, bytes8_eq]
  generalize s.toList = xs
  generalize t.toList = ys
  induction xs generalizing ys with
  | nil =>
    cases ys with
    | nil => simp
    | cons y ys =>
      obtain ⟨u, us, hy⟩ := utf8EncodeChar_eq_cons y
      simp [hy]
  | cons x xs ih =>
    cases ys with
    | nil => simp
    | cons y ys =>
      rw [List.cons_lt_cons_iff, ih, List.flatMap_cons, List.flatMap_cons]
      rcases Std.lt_trichotomy x y with hlt | rfl | hgt
      · simp only [hlt, true_or, true_iff]
        exact utf8EncodeChar_append_lt hlt _ _
      · rw [append_lt_append_iff]
        simp
      · have hbytes := utf8EncodeChar_append_lt hgt (ys.flatMap String.utf8EncodeChar)
          (xs.flatMap String.utf8EncodeChar)
        have hne : x ≠ y := by
          rintro rfl
          exact Char.lt_irrefl x hgt
        simp only [Char.lt_asymm hgt, hne, List.lt_asymm hbytes, false_and, or_self]

end CartCriteria.Text
