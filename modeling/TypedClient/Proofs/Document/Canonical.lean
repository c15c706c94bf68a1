import TypedClient.Proofs.Document.Pointer

/-!
# Canonical pointers

Percent-decoding makes one location have many spellings. Of a well-formed pointer the canonical form
keeps the keys and nothing else, since a path of keys is read off its joined form: two spellings
have one canonical form exactly when they name the same keys. `canonical_tokens` says this, and
what a pointer joined from keys without percent signs is read as, for pointers and keys of any
bytes. A canonical form that is no text is written out as one that belongs to no other pointer, so
that canonical forms are told apart as texts (`canonical_eq_canonical_iff`).
-/

namespace TypedClient

namespace Value

/-- Whether a value is put together from mappings alone: no list stands in it. -/
inductive OfMappings : Value → Prop where
  | scalar {v} : v.list? = none → v.mapping? = none → OfMappings v
  | mapping {entries} : (∀ e ∈ entries, OfMappings e.2) → OfMappings (.mapping entries)

variable {v w : Value} {key : String}

/-- Where there are no lists, a key leads where the entry of that key does. -/
theorem OfMappings.step?_eq (h : v.OfMappings) (key : String) :
    Pointer.step? v key = v.get? key := by
  cases h with
  | mapping => rfl
  | scalar hlist hmapping =>
      cases v with
      | list => cases hlist
      | mapping => cases hmapping
      | _ => rfl

/-- What stands in a value without lists has no lists in it. -/
theorem OfMappings.get? (h : v.OfMappings) (hw : v.get? key = some w) : w.OfMappings := by
  cases h with
  | @mapping entries hentries =>
      obtain ⟨before, after, heq, -⟩ := List.lookup_eq_some_iff.1 hw
      have hmem : (key, w) ∈ (Value.mapping entries).entries :=
        heq ▸ List.mem_append_right before List.mem_cons_self
      exact hentries (key, w) hmem
  | scalar hlist hmapping =>
      rw [Value.get?, entries, hmapping] at hw
      cases hw

/-- Where there are no lists, a path of keys leads from entry to entry. -/
theorem OfMappings.descendBytes?_eq (h : v.OfMappings) (keys : List Bytes) :
    Pointer.descendBytes? v keys =
      keys.foldlM (fun v key => (Text.ofBytes? key).bind v.get?) v := by
  rw [Pointer.descendBytes?]
  induction keys generalizing v with
  | nil => rfl
  | cons key keys ih =>
      rw [List.foldlM_cons, List.foldlM_cons]
      cases Text.ofBytes? key with
      | none => rfl
      | some s =>
          rw [Option.bind_some, Option.bind_some, h.step?_eq s]
          cases hw : v.get? s with
          | none => rfl
          | some w => exact ih (h.get? hw)

end Value

namespace Pointer

variable {p q : Bytes} {keys : List Bytes}

/-- Whether a pointer is a number sign and a fragment that is empty or starts with a slash once it
is percent-decoded. -/
def IsWellFormed (pointer : Bytes) : Prop :=
  ∃ fragment, pointer = 0x23 :: fragment ∧
    (decoded fragment = [] ∨ ∃ rest, decoded fragment = 0x2f :: rest)

/-- A well-formed pointer names keys, and its canonical form is joined from them. -/
theorem IsWellFormed.exists_keys (h : IsWellFormed p) :
    ∃ keys, keys? p = some keys ∧ canonicalBytes p = ofKeys keys := by
  obtain ⟨fragment, rfl, hfragment⟩ := h
  have hkeys : ∃ keys, keys? (0x23 :: fragment) = some keys := by
    have hafter : afterSign (0x23 :: fragment) = fragment := rfl
    rw [keys?, hafter]
    rcases hfragment with hempty | ⟨rest, hrest⟩
    · rw [hempty]
      exact ⟨[], rfl⟩
    · rw [hrest, keysOf?]
      exact ⟨_, rfl⟩
  obtain ⟨keys, hkeys⟩ := hkeys
  exact ⟨keys, hkeys, canonicalBytes_of_keys? rfl hkeys⟩

/-- A path of keys is read off its joined form. -/
theorem ofKeys_injective : Function.Injective ofKeys := by
  intro keys others h
  have hread := congrArg keysOf? (List.cons.inj h).2
  rw [keysOf?_written, keysOf?_written] at hread
  exact Option.some.inj hread

/-- The canonical form of a well-formed pointer is joined from the keys that it names. -/
theorem IsWellFormed.canonicalBytes_eq_ofKeys_iff (h : IsWellFormed p) :
    canonicalBytes p = ofKeys keys ↔ keys? p = some keys := by
  obtain ⟨own, hkeys, hcanonical⟩ := h.exists_keys
  rw [hkeys, hcanonical, ofKeys_injective.eq_iff, Option.some.injEq]

/-- Well-formed pointers have one canonical form exactly when they name the same keys. -/
theorem IsWellFormed.canonicalBytes_eq_iff (hp : IsWellFormed p) (hq : IsWellFormed q) :
    canonicalBytes p = canonicalBytes q ↔ keys? p = keys? q := by
  obtain ⟨keys, hkeys, hcanonical⟩ := hq.exists_keys
  rw [hkeys, hcanonical, hp.canonicalBytes_eq_ofKeys_iff]

/-! ## Canonical forms as texts -/

/-- A pointer is joined from its keys or kept. -/
theorem canonicalBytes_cases (p : Bytes) :
    (∃ keys, canonicalBytes p = ofKeys keys) ∨ canonicalBytes p = p := by
  unfold canonicalBytes
  split
  · split
    · exact .inl ⟨_, rfl⟩
    · exact .inr rfl
  · exact .inr rfl

theorem ofKeys_ne_escaped (keys : List Bytes) (rest : Bytes) :
    ofKeys keys ≠ 0x23 :: 0x25 :: rest := by
  intro h
  have hrest := (List.cons.inj h).2
  cases keys with
  | nil => cases hrest
  | cons key keys => exact absurd (List.cons.inj hrest).1 (by decide)

/-- A canonical form that is no text is joined from keys. As a text it is a spelling of the same
keys with a percent sign behind the number sign. -/
theorem canonical_of_none {pointer : String}
    (h : Text.ofBytes? (canonicalBytes (Text.bytes pointer)) = none) :
    ∃ keys, canonicalBytes (Text.bytes pointer) = ofKeys keys ∧
      canonicalBytes (Text.bytes (canonical pointer)) = ofKeys keys ∧
      ∃ rest, Text.bytes (canonical pointer) = 0x23 :: 0x25 :: rest := by
  obtain ⟨keys, hkeys⟩ | hkept := canonicalBytes_cases (Text.bytes pointer)
  · let written := afterSign (ofKeys keys)
    let escaped := Text.percentEncoded (fun _ => false) written
    have hspelled : canonical pointer = "#" ++ escaped := by
      rw [canonical, spelled, h, Option.getD_none, hkeys]
    have hbytes : Text.bytes (canonical pointer) = 0x23 :: Text.bytes escaped := by
      rw [hspelled, Text.bytes_append]
      rfl
    have hdecoded : decoded (Text.bytes escaped) = written := by
      rw [decoded, Text.percentDecoded?_percentEncoded rfl, Option.getD_some]
    have hread : keys? (0x23 :: Text.bytes escaped) = some keys :=
      (congrArg keysOf? hdecoded).trans (keysOf?_written keys)
    refine ⟨keys, hkeys, hbytes ▸ canonicalBytes_of_keys? rfl hread, ?_⟩
    cases keys with
    | nil =>
        rw [hkeys] at h
        exact absurd h (by decide)
    | cons key keys =>
        obtain ⟨rest, hrest⟩ := Text.bytes_percentEncoded_cons 0x2f
          (escapeBytes key ++ afterSign (ofKeys keys))
        exact ⟨rest, hbytes.trans (congrArg _ hrest)⟩
  · rw [hkept, Text.ofBytes?_bytes] at h
    cases h

/-- The text of a canonical form that is no text is no canonical form. -/
theorem canonicalBytes_ne_canonical {pointer : String}
    (h : Text.ofBytes? (canonicalBytes (Text.bytes pointer)) = none) (other : Bytes) :
    canonicalBytes other ≠ Text.bytes (canonical pointer) := by
  intro heq
  obtain ⟨keys, -, hagain, rest, hrest⟩ := canonical_of_none h
  obtain ⟨others, hothers⟩ | hkept := canonicalBytes_cases other
  · exact ofKeys_ne_escaped others rest (hothers.symm.trans (heq.trans hrest))
  · rw [← hkept.symm.trans heq, heq, hrest] at hagain
    exact ofKeys_ne_escaped keys rest hagain.symm

/-- Canonical forms are told apart as texts. -/
theorem canonical_eq_canonical_iff {pointer other : String} :
    canonical pointer = canonical other ↔
      canonicalBytes (Text.bytes pointer) = canonicalBytes (Text.bytes other) := by
  refine ⟨fun h => ?_, congrArg spelled⟩
  have htext : ∀ {p : String} {s}, Text.ofBytes? (canonicalBytes (Text.bytes p)) = some s →
      canonicalBytes (Text.bytes p) = Text.bytes (canonical p) := by
    intro p s hs
    rw [canonical, spelled, hs, Option.getD_some, Text.ofBytes?_eq_some_iff.1 hs]
  cases hp : Text.ofBytes? (canonicalBytes (Text.bytes pointer)) with
  | none =>
      cases hq : Text.ofBytes? (canonicalBytes (Text.bytes other)) with
      | none =>
          obtain ⟨keys, hkeys, hagain, -⟩ := canonical_of_none hp
          obtain ⟨others, hothers, hagain', -⟩ := canonical_of_none hq
          rw [hkeys, hothers, ← hagain, ← hagain', h]
      | some t =>
          exact absurd ((htext hq).trans (congrArg _ h.symm)) (canonicalBytes_ne_canonical hp _)
  | some s =>
      cases hq : Text.ofBytes? (canonicalBytes (Text.bytes other)) with
      | none => exact absurd ((htext hp).trans (congrArg _ h)) (canonicalBytes_ne_canonical hq _)
      | some t => rw [htext hp, htext hq, h]

/-- Keys without percent signs are read off the pointer that is joined from them, which is its own
canonical form and leads from entry to entry along them. -/
theorem ofKeys_reads (h : ∀ key ∈ keys, 0x25 ∉ key) :
    keys? (ofKeys keys) = some keys ∧ canonicalBytes (ofKeys keys) = ofKeys keys ∧
      ∀ doc : Value, doc.OfMappings → lookupBytes? doc (ofKeys keys) =
        keys.foldlM (fun v key => (Text.ofBytes? key).bind v.get?) doc := by
  have hkeys := keys?_ofKeys (decoded_ofKeys h)
  have hlocal : isLocal (ofKeys keys) = true := rfl
  refine ⟨hkeys, canonicalBytes_of_keys? hlocal hkeys, fun doc hdoc => ?_⟩
  rw [lookupBytes?, if_pos hlocal, hkeys, Option.bind_some, hdoc.descendBytes?_eq]

/-- The same of keys that are texts. -/
theorem join_reads {keys : List String} (h : ∀ key ∈ keys, '%' ∉ key.toList) :
    tokens? (join keys) = some keys ∧ canonical (join keys) = join keys ∧
      ∀ doc : Value, doc.OfMappings → lookup? doc (join keys) = keys.foldlM Value.get? doc := by
  have htokens := tokens?_join (literal_join h)
  refine ⟨htokens, canonical_eq_join (startsWith_join keys) htokens, fun doc hdoc => ?_⟩
  have hbytes : ∀ key ∈ keys.map Text.bytes, 0x25 ∉ key := List.forall_mem_map.2
    (fun key hkey hmem => h key hkey ((Text.mem_bytes_ascii (d := '%') (by decide)).1 hmem))
  rw [lookup?, bytes_join, (ofKeys_reads hbytes).2.2 doc hdoc, List.foldlM_map]
  simp only [Text.ofBytes?_bytes, Option.bind_some]

/-- Two well-formed pointers have the same canonical form exactly when they name the same keys; so
the canonical form of a pointer is that of a schema exactly when the pointer names the schema. A
pointer that is joined from keys without percent signs names them, is its own canonical form, and
leads from entry to entry along them in a document of mappings. This holds of pointers and keys in
bytes, and of those that are texts also as the texts that the program holds. -/
theorem canonical_tokens :
    (∀ p q, IsWellFormed p → IsWellFormed q →
      (canonicalBytes p = canonicalBytes q ↔ keys? p = keys? q)) ∧
    (∀ p, IsWellFormed p → ∀ name,
      (canonicalBytes p = ofKeys [Text.bytes "components", Text.bytes "schemas", name] ↔
        keys? p = some [Text.bytes "components", Text.bytes "schemas", name])) ∧
    (∀ keys : List Bytes, (∀ key ∈ keys, 0x25 ∉ key) →
      keys? (ofKeys keys) = some keys ∧ canonicalBytes (ofKeys keys) = ofKeys keys ∧
        ∀ doc : Value, doc.OfMappings → lookupBytes? doc (ofKeys keys) =
          keys.foldlM (fun v key => (Text.ofBytes? key).bind v.get?) doc) ∧
    (∀ p q : String, IsWellFormed (Text.bytes p) → IsWellFormed (Text.bytes q) →
      (canonical p = canonical q ↔ keys? (Text.bytes p) = keys? (Text.bytes q))) ∧
    ∀ keys : List String, (∀ key ∈ keys, '%' ∉ key.toList) →
      tokens? (join keys) = some keys ∧ canonical (join keys) = join keys ∧
        ∀ doc : Value, doc.OfMappings → lookup? doc (join keys) = keys.foldlM Value.get? doc :=
  ⟨fun _ _ hp hq => hp.canonicalBytes_eq_iff hq,
    fun _ hp _ => hp.canonicalBytes_eq_ofKeys_iff,
    fun _ hkeys => ofKeys_reads hkeys,
    fun _ _ hp hq => canonical_eq_canonical_iff.trans (hp.canonicalBytes_eq_iff hq),
    fun _ hkeys => join_reads hkeys⟩

/-- A document of mappings, with keys that hold what pointers escape. -/
def escapedKeys : Value :=
  .mapping [("a/b", .mapping [("~1", .text "here")])]

/-- `canonical_tokens` for two spellings of one schema, for pointers that a byte beyond ASCII and
its written escape keep apart, and for keys with a slash and a tilde. -/
theorem canonical_tokens_spellings :
    (IsWellFormed (Text.bytes "#/a%ff") ∧ IsWellFormed (Text.bytes "#/a%25ff") ∧
      IsWellFormed (Text.bytes "#%2fa%ff") ∧
      canonicalBytes (Text.bytes "#/a%ff") ≠ canonicalBytes (Text.bytes "#/a%25ff") ∧
      canonicalBytes (Text.bytes "#/a%ff") = canonicalBytes (Text.bytes "#%2fa%ff")) ∧
    (IsWellFormed (Text.bytes "#/components/schemas/Pet%20Owner") ∧
      canonicalBytes (Text.bytes "#/components/schemas/Pet%20Owner") =
        ofKeys [Text.bytes "components", Text.bytes "schemas", Text.bytes "Pet Owner"]) ∧
    ((∀ key ∈ [Text.bytes "a/b", [0x7e, 0xff]], 0x25 ∉ key) ∧
      ofKeys [Text.bytes "a/b", [0x7e, 0xff]] = Text.bytes "#/a~1b/~0" ++ [0xff] ∧
      keys? (ofKeys [Text.bytes "a/b", [0x7e, 0xff]]) = some [Text.bytes "a/b", [0x7e, 0xff]] ∧
      lookupBytes? escapedKeys (ofKeys [Text.bytes "a/b", [0x7e, 0xff]]) = none) ∧
    (canonical "#/a%ff" ≠ canonical "#/a%25ff" ∧ canonical "#/a%ff" = canonical "#%2fa%ff") ∧
    (∀ key ∈ ["a/b", "~1"], '%' ∉ key.toList) ∧ join ["a/b", "~1"] = "#/a~1b/~01" ∧
      tokens? (join ["a/b", "~1"]) = some ["a/b", "~1"] ∧
      canonical (join ["a/b", "~1"]) = join ["a/b", "~1"] ∧ escapedKeys.OfMappings ∧
      lookup? escapedKeys (join ["a/b", "~1"]) = some (.text "here") := by
  obtain ⟨hforms, hschemas, hjoined, htexts, hjoinedTexts⟩ := canonical_tokens
  have hbyte : IsWellFormed (Text.bytes "#/a%ff") :=
    ⟨Text.bytes "/a%ff", by decide +kernel, .inr ⟨[0x61, 0xff], by decide +kernel⟩⟩
  have hwritten : IsWellFormed (Text.bytes "#/a%25ff") :=
    ⟨Text.bytes "/a%25ff", by decide +kernel, .inr ⟨Text.bytes "a%ff", by decide +kernel⟩⟩
  have hslash : IsWellFormed (Text.bytes "#%2fa%ff") :=
    ⟨Text.bytes "%2fa%ff", by decide +kernel, .inr ⟨[0x61, 0xff], by decide +kernel⟩⟩
  have hspaced : IsWellFormed (Text.bytes "#/components/schemas/Pet%20Owner") :=
    ⟨Text.bytes "/components/schemas/Pet%20Owner", by decide +kernel,
      .inr ⟨Text.bytes "components/schemas/Pet Owner", by decide +kernel⟩⟩
  have happart : keys? (Text.bytes "#/a%ff") ≠ keys? (Text.bytes "#/a%25ff") := by decide +kernel
  have hsame : keys? (Text.bytes "#/a%ff") = keys? (Text.bytes "#%2fa%ff") := by decide +kernel
  have hdoc : escapedKeys.OfMappings := by
    refine .mapping (List.forall_mem_singleton.2 (.mapping (List.forall_mem_singleton.2 ?_)))
    exact .scalar rfl rfl
  have hbytes : ∀ key ∈ [Text.bytes "a/b", [0x7e, 0xff]], 0x25 ∉ key := by decide +kernel
  have hkeys : ∀ key ∈ ["a/b", "~1"], '%' ∉ key.toList := by decide +kernel
  obtain ⟨hread, -, hlookup⟩ := hjoined _ hbytes
  obtain ⟨htokens, hcanonical, hlookupText⟩ := hjoinedTexts _ hkeys
  exact ⟨⟨hbyte, hwritten, hslash, mt (hforms _ _ hbyte hwritten).1 happart,
      (hforms _ _ hbyte hslash).2 hsame⟩,
    ⟨hspaced, (hschemas _ hspaced (Text.bytes "Pet Owner")).2 (by decide +kernel)⟩,
    ⟨hbytes, by decide +kernel, hread, hlookup _ hdoc⟩,
    ⟨mt (htexts _ _ hbyte hwritten).1 happart, (htexts _ _ hbyte hslash).2 hsame⟩,
    hkeys, by decide +kernel, htokens, hcanonical, hdoc, hlookupText _ hdoc⟩

end Pointer

end TypedClient
