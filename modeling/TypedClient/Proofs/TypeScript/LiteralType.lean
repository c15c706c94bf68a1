import TypedClient.Proofs.Document.Ordered
import TypedClient.Proofs.TypeScript.Grammar
import TypedClient.Proofs.TypeScript.Literal

/-!
# Literals as types

A literal in the place of a type stands for its value alone: a text or a number for itself, a list
for a tuple of its items, and a mapping for an object with its entries. `spells_literal` says that
the literal of a value is read as that type, and as one operand, so that it needs no parentheses.
-/

namespace TypedClient.TypeScript

mutual

/-- The type that the JSON text of a value denotes. -/
def jsonType : Value → TypeExpr
  | .null => [.word "null"]
  | .bool b => [.word (if b then "true" else "false")]
  | .int n => [.word (toString n)]
  | .int64 n => [.word (toString n)]
  | .uint n => [.word (toString n)]
  | .float x => [.word (Layout.interchange.number x)]
  | .text s => [.text (Json.quoted true s)]
  | .list items => [.tuple (jsonTypes items)]
  | .mapping entries => [.object (jsonMembers entries)]

/-- The types of the items of a list. -/
def jsonTypes : List Value → List TypeExpr
  | [] => []
  | v :: rest => jsonType v :: jsonTypes rest

/-- The members that the entries of a mapping are. -/
def jsonMembers : List (String × Value) → List (Member TypeExpr)
  | [] => []
  | (key, v) :: rest =>
      ⟨.text (Json.quoted true key), false, jsonType v⟩ :: jsonMembers rest

end

/-- The type that holds one value: outside of lists and mappings a text has single quotes, and a
number no exponent. -/
def literalType : Value → TypeExpr
  | .text s => [.text (quoted s)]
  | .float x => [.word (Layout.plain.number x)]
  | v => jsonType v

theorem spells_word {s : String} (h : isWord s = true) : Spells s (IsOperand · [.word s]) :=
  ⟨_, tokens?_word h, .word s⟩

/-- The JSON texts of items, with a type for each. -/
theorem forall₂_itemTexts? {depth : Nat} {items : List Value} {texts : List String}
    (hitems : ∀ v ∈ items, ∀ depth s, Json.text? Json.compact depth v = some s →
      Spells s (IsOperand · (jsonType v)))
    (h : Json.itemTexts? Json.compact depth items = some texts) :
    List.Forall₂ (fun s e => Spells s (IsOperand · e)) texts (jsonTypes items) := by
  induction items generalizing texts with
  | nil =>
      cases h
      exact .nil
  | cons v items ih =>
      rw [List.forall_mem_cons] at hitems
      obtain ⟨s, hs, h⟩ := Option.bind_eq_some_iff.1 h
      obtain ⟨rest, hrest, h⟩ := Option.bind_eq_some_iff.1 h
      cases h
      exact .cons (hitems.1 depth s hs) (ih hitems.2 hrest)

/-- The JSON texts of entries, with a member for each. -/
theorem forall₂_entryTexts? {depth : Nat} {entries : List (String × Value)} {texts : List String}
    (hentries : ∀ e ∈ entries, ∀ depth s, Json.text? Json.compact depth e.2 = some s →
      Spells s (IsOperand · (jsonType e.2)))
    (h : Json.entryTexts? Json.compact depth entries = some texts) :
    List.Forall₂ (fun s m => Spells s (IsMember · m)) texts (jsonMembers entries) := by
  induction entries generalizing texts with
  | nil =>
      cases h
      exact .nil
  | cons e entries ih =>
      obtain ⟨key, v⟩ := e
      rw [List.forall_mem_cons] at hentries
      obtain ⟨s, hs, h⟩ := Option.bind_eq_some_iff.1 h
      obtain ⟨rest, hrest, h⟩ := Option.bind_eq_some_iff.1 h
      cases h
      obtain ⟨ts, hts, hv⟩ := hentries.1 depth s hs
      refine .cons ⟨[.text (Json.quoted true key)] ++ ([.mark ':'] ++ ts), ?_, ?_⟩
        (ih hentries.2 hrest)
      · have hcolon : Delimits Json.compact.colon [.mark ':'] := by decide
        rw [String.append_assoc]
        exact tokens?_closed (run_jsonQuoted true key) (tokens?_closed hcolon.1 hts)
      · exact unite_operand (jsonType v) ▸ .required rfl hv.isUnion

/-- Parts between brackets on one line. -/
theorem bracket_compact {depth : Nat} {first last : String} {parts : List String}
    (h : parts ≠ []) : Json.bracket Json.compact depth first last parts =
      first ++ (",".intercalate parts ++ last) := by
  cases parts with
  | nil => exact absurd rfl h
  | cons part parts => simp [Json.bracket, Json.compact, String.append_assoc]

/-- The JSON text of a value is one operand. -/
theorem spells_json (v : Value) {depth : Nat} {s : String}
    (h : Json.text? Json.compact depth v = some s) : Spells s (IsOperand · (jsonType v)) := by
  induction v using Value.induction_on_parts generalizing depth s with
  | scalar v hlist hmapping =>
      cases v with
      | list => cases hlist
      | mapping => cases hmapping
      | null =>
          cases h
          exact spells_word (by decide)
      | bool b =>
          cases h
          exact spells_word (by cases b <;> decide)
      | int n =>
          cases h
          exact spells_word (isWord_int n)
      | int64 n =>
          cases h
          exact spells_word (isWord_int n)
      | uint n =>
          cases h
          exact spells_word (isWord_nat n)
      | float x =>
          rw [Json.text?] at h
          split at h
          case isTrue hfinite =>
            cases h
            exact spells_word (isWord_number _ hfinite)
          case isFalse => cases h
      | text t =>
          cases h
          exact ⟨_, tokens?_of_run (run_jsonQuoted true t), .text _⟩
  | list items ih =>
      obtain ⟨texts, htexts, rfl⟩ := Option.map_eq_some_iff.1 h
      have hall := forall₂_itemTexts? (fun v hv _ _ => ih v hv) htexts
      rw [jsonType]
      generalize jsonTypes items = es at hall
      cases texts with
      | nil =>
          cases hall
          have hunit : tokens? "[]" = some [.mark '[', .mark ']'] := by decide
          exact ⟨_, hunit, .unit⟩
      | cons text texts =>
          have hcomma : Delimits "," [.mark ','] := by decide
          have hitems : Spells (",".intercalate (text :: texts)) (IsItems · es) :=
            spells_intercalate (Q := IsItems) hcomma IsOperand.items IsOperand.comma hall
              (List.cons_ne_nil _ _)
          obtain ⟨ts, hts, hes⟩ := hitems
          have hopen : Delimits "[" [.mark '['] := by decide
          have hclose : Delimits "]" [.mark ']'] := by decide
          rw [bracket_compact (List.cons_ne_nil _ _)]
          exact ⟨_, tokens?_closed hopen.1 (tokens?_ended hts hclose), .tuple hes⟩
  | mapping entries ih =>
      obtain ⟨texts, htexts, rfl⟩ := Option.map_eq_some_iff.1 h
      have hall := forall₂_entryTexts? (fun e he _ _ => ih e he) htexts
      rw [jsonType]
      generalize jsonMembers entries = ms at hall
      cases texts with
      | nil =>
          cases hall
          have hunit : tokens? "\x7b\x7d" = some [.mark '\x7b', .mark '\x7d'] := by decide
          exact ⟨_, hunit, .object .nil⟩
      | cons text texts =>
          have hcomma : Delimits "," [.mark ','] := by decide
          have hmembers : Spells (",".intercalate (text :: texts)) (IsMembers · ms) :=
            spells_intercalate hcomma .last (.more ',' (.inr rfl)) hall (List.cons_ne_nil _ _)
          obtain ⟨ts, hts, hms⟩ := hmembers
          have hopen : Delimits "\x7b" [.mark '\x7b'] := by decide
          have hclose : Delimits "\x7d" [.mark '\x7d'] := by decide
          rw [bracket_compact (List.cons_ne_nil _ _)]
          exact ⟨_, tokens?_closed hopen.1 (tokens?_ended hts hclose), .object hms⟩

/-- The literal of a value is one operand, unless the value holds a number that is not finite. -/
theorem spells_literal {v : Value} (h : (Json.text? Json.compact 0 v).isSome = true) :
    Spells (literal v) (IsOperand · (literalType v)) := by
  obtain ⟨s, hs⟩ := Option.isSome_iff_exists.1 h
  have hjson := spells_json v hs
  cases v with
  | text t => exact ⟨_, tokens?_of_run (run_quoted t), .text _⟩
  | float x =>
      rw [Json.text?] at hs
      split at hs
      case isTrue hfinite => exact spells_word (isWord_number _ hfinite)
      case isFalse => cases hs
  | null => exact spells_word (by decide)
  | bool b =>
      cases hs
      exact hjson
  | _ =>
      simp only [literal, hs, Option.getD_some]
      exact hjson

/-- A literal that is a word is written as that word. -/
theorem literal_of_word {v : Value} {w : String} (h : literalType v = [.word w]) :
    literal v = w := by
  cases v with
  | null | bool | int | int64 | uint | float =>
      cases h
      rfl
  | text | list | mapping => simp [literalType, jsonType] at h

theorem length_literalType (v : Value) : (literalType v).length = 1 := by
  cases v <;> rfl

end TypedClient.TypeScript
