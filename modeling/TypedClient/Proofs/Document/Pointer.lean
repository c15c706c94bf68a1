import TypedClient.Document.Pointer
import TypedClient.Proofs.Text.Bytes
import TypedClient.Proofs.Text.Parts

/-!
# Pointers and their keys

`keysOf?_written` reads a path of keys back from its written form: escaping keeps the slashes of a
key apart from those between keys, and is undone in the opposite order. So `tokens?_join` reads the
keys of a pointer back from it. This holds of a pointer that stands for itself; percent-decoding,
which is never undone by `join`, changes the others.

`below_inj` takes a pointer apart at its last slash.
-/

namespace TypedClient

namespace Pointer

/-! ## The written form of a key -/

variable {digit original b d : UInt8} {rest : Bytes}

/-- A byte other than a tilde stays. -/
theorem undo_of_ne (h : b ≠ 0x7e) :
    undo digit original (b :: rest) = b :: undo digit original rest := by
  cases rest with
  | nil => rfl
  | cons d rest => rw [undo, if_neg (fun hboth => h hboth.1)]

/-- A tilde in front of another digit stays. -/
theorem undo_tilde_of_ne (h : d ≠ digit) :
    undo digit original (0x7e :: d :: rest) = 0x7e :: undo digit original (d :: rest) := by
  rw [undo, if_neg (fun hboth => h hboth.2)]

/-- A tilde in front of the digit is undone. -/
theorem undo_tilde :
    undo digit original (0x7e :: digit :: rest) = original :: undo digit original rest := by
  rw [undo, if_pos ⟨rfl, rfl⟩]

/-- The written form of a byte whose slash is undone. -/
def halfEscapeByte (b : UInt8) : Bytes :=
  if b = 0x7e then [0x7e, 0x30] else [b]

/-- The slashes of a key are undone first. -/
theorem undo_slashes (key : Bytes) :
    undo 0x31 0x2f (key.flatMap escapeByte) = key.flatMap halfEscapeByte := by
  induction key with
  | nil => rfl
  | cons b key ih =>
      rw [List.flatMap_cons, List.flatMap_cons, ← ih, escapeByte, halfEscapeByte]
      by_cases htilde : b = 0x7e
      · rw [if_pos htilde, if_pos htilde]
        exact (undo_tilde_of_ne (by decide)).trans (congrArg _ (undo_of_ne (by decide)))
      · rw [if_neg htilde, if_neg htilde]
        by_cases hslash : b = 0x2f
        · rw [if_pos hslash, hslash]
          exact undo_tilde
        · rw [if_neg hslash]
          exact undo_of_ne htilde

/-- Then the tildes are undone. -/
theorem undo_tildes (key : Bytes) : undo 0x30 0x7e (key.flatMap halfEscapeByte) = key := by
  induction key with
  | nil => rfl
  | cons b key ih =>
      rw [List.flatMap_cons, halfEscapeByte]
      split
      case isTrue htilde =>
        rw [htilde]
        exact undo_tilde.trans (congrArg _ ih)
      case isFalse htilde =>
        exact (undo_of_ne htilde).trans (congrArg _ ih)

/-- A key is read back from its written form. -/
theorem unescape_escapeBytes (key : Bytes) : unescape (escapeBytes key) = key := by
  rw [unescape, escapeBytes, undo_slashes, undo_tildes]

/-- The written form of a key holds no slash. -/
theorem slash_not_mem_escapeBytes (key : Bytes) : 0x2f ∉ escapeBytes key := by
  rw [escapeBytes, List.mem_flatMap]
  rintro ⟨b, -, hb⟩
  unfold escapeByte at hb
  split at hb
  · exact absurd hb (by decide)
  · split at hb
    · exact absurd hb (by decide)
    case isFalse hslash => exact hslash (List.mem_singleton.1 hb).symm

/-- The written form of a key holds a percent sign only when the key does. -/
theorem percent_not_mem_escapeBytes {key : Bytes} (h : 0x25 ∉ key) : 0x25 ∉ escapeBytes key := by
  rw [escapeBytes, List.mem_flatMap]
  rintro ⟨b, hmem, hb⟩
  unfold escapeByte at hb
  split at hb
  · exact absurd hb (by decide)
  · split at hb
    · exact absurd hb (by decide)
    · exact h (List.mem_singleton.1 hb ▸ hmem)

/-- The bytes of what is written for a character are what is written for its bytes. -/
theorem bytes_escapeChar (c : Char) :
    (escapeChar c).flatMap String.utf8EncodeChar =
      (String.utf8EncodeChar c).flatMap escapeByte := by
  by_cases htilde : c = '~'
  · subst htilde
    decide
  by_cases hslash : c = '/'
  · subst hslash
    decide
  have hself : ∀ b ∈ String.utf8EncodeChar c, escapeByte b = [b] := by
    intro b hb
    have hnottilde : b ≠ 0x7e := by
      rintro rfl
      exact htilde ((Text.mem_utf8EncodeChar_ascii (d := '~') (by decide)).1 hb).symm
    have hnotslash : b ≠ 0x2f := by
      rintro rfl
      exact hslash ((Text.mem_utf8EncodeChar_ascii (d := '/') (by decide)).1 hb).symm
    rw [escapeByte, if_neg hnottilde, if_neg hnotslash]
  rw [escapeChar, if_neg htilde, if_neg hslash, List.flatMap_singleton, List.flatMap_congr hself,
    List.flatMap_singleton']

/-- A key in bytes is written as the bytes of the written form. -/
theorem bytes_escape (key : String) :
    Text.bytes (escape key) = escapeBytes (Text.bytes key) := by
  rw [escape, Text.bytes_ofList, Text.bytes, escapeBytes, List.flatMap_assoc, List.flatMap_assoc]
  exact List.flatMap_congr (fun c _ => bytes_escapeChar c)

/-- Keys with one written form are equal. -/
theorem escape_injective {key other : String} (h : escape key = escape other) : key = other := by
  refine Text.bytes_injective ?_
  rw [← unescape_escapeBytes (Text.bytes key), ← bytes_escape, h, bytes_escape,
    unescape_escapeBytes]

/-- The written form of a key holds no slash. -/
theorem slash_not_mem_escape (key : String) : '/' ∉ (escape key).toList := by
  rw [escape, String.toList_ofList, List.mem_flatMap]
  rintro ⟨c, -, hc⟩
  unfold escapeChar at hc
  split at hc
  · exact absurd hc (by decide)
  · split at hc
    · exact absurd hc (by decide)
    case isFalse hslash => exact hslash (List.mem_singleton.1 hc).symm

/-- The written form of an index consists of digits. -/
theorem isDigit_of_mem_toString {i : Nat} {c : Char} (h : c ∈ (toString i).toList) :
    c.isDigit = true := by
  rw [Nat.toString_eq_repr, Nat.toList_repr] at h
  exact Nat.isDigit_of_mem_toDigits (by decide) (by decide) h

/-! ## Pointers put together from keys -/

theorem toList_join (keys : List String) :
    (join keys).toList = '#' :: keys.flatMap (fun key => '/' :: (escape key).toList) := by
  rw [join, String.toList_append, String.toList_join, List.flatMap_map]
  simp [String.toList_append]

/-- A pointer one key further down. -/
theorem join_concat (keys : List String) (key : String) :
    join (keys ++ [key]) = join keys ++ "/" ++ escape key := by
  apply String.toList_injective
  simp [toList_join, String.toList_append]

/-- A pointer is taken apart at its last slash. -/
theorem below_inj {a b s t : String} (hs : '/' ∉ s.toList) (ht : '/' ∉ t.toList)
    (h : a ++ "/" ++ s = b ++ "/" ++ t) : a = b ∧ s = t := by
  have hchars := congrArg String.toList h
  simp only [String.toList_append, List.append_assoc] at hchars
  obtain ⟨hab, hst⟩ := Text.cut_last hs ht hchars
  exact ⟨String.toList_injective hab, String.toList_injective hst⟩

/-- A pointer is taken apart at a step whose word is known. -/
theorem below_word {a b s t step : String} (hstep : "/" ++ s = step) (hs : '/' ∉ s.toList)
    (ht : '/' ∉ t.toList) (h : a ++ step = b ++ "/" ++ t) : a = b ∧ s = t := by
  rw [← hstep, ← String.append_assoc] at h
  exact below_inj hs ht h

theorem startsWith_join (keys : List String) : Text.startsWith "#" (join keys) = true := by
  rw [Text.startsWith, toList_join]
  rfl

/-- The bytes of a joined pointer. -/
theorem bytes_join (keys : List String) :
    Text.bytes (join keys) = ofKeys (keys.map Text.bytes) := by
  have hslash : String.utf8EncodeChar '/' = [0x2f] := by decide
  have hsign : String.utf8EncodeChar '#' = [0x23] := by decide
  rw [Text.bytes, toList_join, List.flatMap_cons, hsign, List.flatMap_assoc, ofKeys,
    List.flatMap_map]
  refine congrArg (List.cons 0x23) (List.flatMap_congr (fun key _ => ?_))
  rw [List.flatMap_cons, hslash, ← bytes_escape]
  rfl

/-- A written path of keys is split at the slashes. -/
theorem keysOf?_written (keys : List Bytes) :
    keysOf? (keys.flatMap (fun key => 0x2f :: escapeBytes key)) = some keys := by
  cases keys with
  | nil => rfl
  | cons key rest =>
      -- the slash in front of each key is also the one behind the key before it
      have hparts : ((key :: rest).flatMap (fun key => 0x2f :: escapeBytes key)) =
          0x2f :: [0x2f].intercalate ((key :: rest).map escapeBytes) := by
        induction rest generalizing key with
        | nil => simp
        | cons next rest ih =>
            rw [List.flatMap_cons, ih next]
            simp [List.intercalate]
      have hfree : ∀ part ∈ (key :: rest).map escapeBytes, 0x2f ∉ part :=
        List.forall_mem_map.2 (fun k _ => slash_not_mem_escapeBytes k)
      have hsplit := List.splitOn_intercalate 0x2f hfree (by simp)
      rw [hparts, keysOf?, if_pos rfl, hsplit, List.map_map]
      congr 1
      exact (List.map_congr_left (fun k _ => unescape_escapeBytes k)).trans (List.map_id _)

/-! ## The number sign -/

/-- A pointer is local when its text starts with a number sign. -/
theorem isLocal_bytes (pointer : String) :
    isLocal (Text.bytes pointer) = Text.startsWith "#" pointer := by
  have hbytes : isLocal (Text.bytes pointer) = true ↔ pointer.toList.head? = some '#' :=
    beq_iff_eq.trans (Text.head?_bytes_ascii (d := '#') (by decide))
  have htext : Text.startsWith "#" pointer = true ↔ pointer.toList.head? = some '#' := by
    have hsign : "#".toList = ['#'] := by decide
    rw [Text.startsWith, hsign]
    cases pointer.toList with
    | nil => simp
    | cons c cs => simp [List.isPrefixOf, eq_comm (a := '#')]
  rw [Bool.eq_iff_iff, hbytes, htext]

theorem afterSign_append {pointer : Bytes} (h : isLocal pointer = true) (rest : Bytes) :
    afterSign (pointer ++ rest) = afterSign pointer ++ rest := by
  cases pointer with
  | nil => cases h
  | cons b pointer => 
    have h' : isLocal (b :: pointer ++ rest) = true := h
    rw [afterSign, if_pos h', afterSign, if_pos h]
    rfl

/-- What follows the number sign belongs to the pointer. -/
theorem afterSign_subset (pointer : Bytes) : afterSign pointer ⊆ pointer := by
  unfold afterSign
  split
  · exact List.tail_subset pointer
  · exact List.Subset.refl _

/-! ## Pointers that stand for themselves -/

/-- Bytes without percent signs are their own decoding. -/
theorem decoded_of_not_mem {fragment : Bytes} (h : 0x25 ∉ fragment) :
    decoded fragment = fragment := by
  rw [decoded, Text.percentDecoded?_of_not_mem h, Option.getD_some]

/-- Percent-decoding leaves a pointer as it stands. -/
def Literal (pointer : String) : Prop :=
  decoded (afterSign (Text.bytes pointer)) = afterSign (Text.bytes pointer)

instance (pointer : String) : Decidable (Literal pointer) :=
  inferInstanceAs (Decidable (_ = _))

/-- A pointer without percent signs stands for itself. -/
theorem literal_of_not_mem {pointer : String} (h : '%' ∉ pointer.toList) : Literal pointer := by
  refine decoded_of_not_mem (fun hmem => h ?_)
  exact (Text.mem_bytes_ascii (d := '%') (by decide)).1 (afterSign_subset _ hmem)

/-- Keys without percent signs make a pointer without them. -/
theorem percent_not_mem_ofKeys {keys : List Bytes} (h : ∀ key ∈ keys, 0x25 ∉ key) :
    0x25 ∉ ofKeys keys := by
  rw [ofKeys, List.mem_cons, List.mem_flatMap]
  rintro (hsign | ⟨key, hkey, hmem⟩)
  · exact absurd hsign (by decide)
  · rcases List.mem_cons.1 hmem with hslash | hmem
    · exact absurd hslash (by decide)
    · exact percent_not_mem_escapeBytes (h key hkey) hmem

/-- Keys without percent signs make a pointer that stands for itself. -/
theorem decoded_ofKeys {keys : List Bytes} (h : ∀ key ∈ keys, 0x25 ∉ key) :
    decoded (afterSign (ofKeys keys)) = afterSign (ofKeys keys) :=
  decoded_of_not_mem (fun hmem => percent_not_mem_ofKeys h (afterSign_subset _ hmem))

theorem literal_join {keys : List String} (h : ∀ key ∈ keys, '%' ∉ key.toList) :
    Literal (join keys) := by
  rw [Literal, bytes_join]
  refine decoded_ofKeys (List.forall_mem_map.2 (fun key hkey hmem => h key hkey ?_))
  exact (Text.mem_bytes_ascii (d := '%') (by decide)).1 hmem

/-- The keys of a joined pointer that stands for itself are those it was joined from. -/
theorem keys?_ofKeys {keys : List Bytes}
    (h : decoded (afterSign (ofKeys keys)) = afterSign (ofKeys keys)) :
    keys? (ofKeys keys) = some keys := by
  rw [keys?, h]
  exact keysOf?_written keys

theorem tokens?_join {keys : List String} (h : Literal (join keys)) :
    tokens? (join keys) = some keys := by
  rw [Literal, bytes_join] at h
  rw [tokens?, bytes_join, keys?_ofKeys h, Option.bind_some, Text.mapM_ofBytes?_eq_some_iff]

/-- An escape that stands for no text is undone, and what it is undone to is the key of nothing. -/
example : ¬Literal "#/definitions/a%ff" ∧ tokens? "#/definitions/a%ff" = none := by decide +kernel

/-! ## Texts and bytes -/

/-- Keys in bytes are followed as the texts that they are, if they are texts. -/
theorem descendBytes?_eq (v : Value) (keys : List Bytes) :
    descendBytes? v keys = (keys.mapM Text.ofBytes?).bind (descend? v) := by
  induction keys generalizing v with
  | nil => rfl
  | cons key keys ih =>
      rw [descendBytes?, List.foldlM_cons, List.mapM_cons]
      cases Text.ofBytes? key with
      | none => rfl
      | some s =>
          calc (step? v s).bind (fun w => descendBytes? w keys)
            _ = (step? v s).bind (fun w => (keys.mapM Text.ofBytes?).bind (descend? w)) := by
                simp only [ih]
            _ = (keys.mapM Text.ofBytes?).bind (fun ss => (step? v s).bind (descend? · ss)) :=
                Option.bind_comm (f := fun w ss => descend? w ss) _ _
            _ = ((keys.mapM Text.ofBytes?).bind (fun ss => some (s :: ss))).bind (descend? v) := by
                rw [Option.bind_assoc]
                rfl

/-- A pointer leads along its keys, when they are texts. -/
theorem lookup?_eq (doc : Value) (pointer : String) :
    lookup? doc pointer =
      if Text.startsWith "#" pointer then (tokens? pointer).bind (descend? doc) else none := by
  rw [lookup?, lookupBytes?, isLocal_bytes, tokens?, Option.bind_assoc]
  exact if_congr Iff.rfl (congrArg _ (funext (descendBytes?_eq doc))) rfl

/-- A joined pointer that stands for itself leads along its keys. -/
theorem lookup?_join (doc : Value) {keys : List String} (h : Literal (join keys)) :
    lookup? doc (join keys) = descend? doc keys := by
  rw [lookup?_eq, if_pos (startsWith_join keys), tokens?_join h, Option.bind_some]

/-- The canonical form in bytes depends on the keys alone. -/
theorem canonicalBytes_of_keys? {pointer : Bytes} {keys : List Bytes}
    (hlocal : isLocal pointer = true) (h : keys? pointer = some keys) :
    canonicalBytes pointer = ofKeys keys := by
  rw [canonicalBytes, if_pos hlocal, h]

/-- A pointer that is a text is spelled as that text. -/
theorem spelled_bytes (pointer : String) : spelled (Text.bytes pointer) = pointer := by
  rw [spelled, Text.ofBytes?_bytes, Option.getD_some]

/-- The canonical form of a pointer depends on its keys alone. -/
theorem canonical_eq_join {pointer : String} {keys : List String}
    (hstart : Text.startsWith "#" pointer = true) (hkeys : tokens? pointer = some keys) :
    canonical pointer = join keys := by
  obtain ⟨parts, hparts, htexts⟩ := Option.bind_eq_some_iff.1 hkeys
  rw [← Text.mapM_ofBytes?_eq_some_iff.1 htexts] at hparts
  rw [canonical, canonicalBytes_of_keys? ((isLocal_bytes pointer).trans hstart) hparts,
    ← bytes_join, spelled_bytes]

end Pointer

end TypedClient
