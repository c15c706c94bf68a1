import TypedClient.Draft.FromV3
import TypedClient.Proofs.Document.Dict
import TypedClient.Proofs.Text.Parts
import TypedClient.Proofs.Text.Replace

/-!
# The variables of a server

The variables of a server are replaced one after the other, each in the text that the ones before
have left. `server_reordered` says when their order makes no difference: the names have no braces,
no default opens one, and no brace opens inside another one in the address. All variables are then
replaced at once, as `fill` does it. `address_disordered` shows what goes wrong without each of the
three conditions.
-/

namespace TypedClient

namespace Text

variable {old s rest : List Char}

theorem afterStart?_eq_some_iff : afterStart? old s = some rest ↔ s = old ++ rest := by
  induction old generalizing s with
  | nil => simp [afterStart?]
  | cons o old ih =>
      cases s with
      | nil => simp [afterStart?]
      | cons c s =>
          by_cases heq : o = c
          · simp [afterStart?, heq, ih]
          · simp [afterStart?, heq, Ne.symm heq]

theorem afterStart?_eq_none_of (h : ¬ old <+: s) : afterStart? old s = none := by
  refine Option.eq_none_iff_forall_ne_some.2 (fun rest hrest => h ⟨rest, ?_⟩)
  exact (afterStart?_eq_some_iff.1 hrest).symm

end Text

namespace V3

/-- The text has no braces. -/
def Braceless (cs : List Char) : Prop :=
  '\x7b' ∉ cs ∧ '\x7d' ∉ cs

instance (cs : List Char) : Decidable (Braceless cs) :=
  inferInstanceAs (Decidable (_ ∧ _))

/-- Whether no brace opens between an opening brace and the next closing one. -/
def unnested (inside : Bool) : List Char → Bool
  | [] => true
  | c :: s =>
      if c = '\x7b' then !inside && unnested true s
      else if c = '\x7d' then unnested false s
      else unnested inside s

/-- The text with each name between braces turned into its value, if it has one. The first argument
is what stands behind the last brace when that brace opens. -/
def fill (value? : List Char → Option (List Char)) : Option (List Char) → List Char → List Char
  | none, [] => []
  | some name, [] => '\x7b' :: name
  | none, c :: s => if c = '\x7b' then fill value? (some []) s else c :: fill value? none s
  | some name, c :: s =>
      if c = '\x7b' then '\x7b' :: name ++ fill value? (some []) s
      else if c = '\x7d' then
        (value? name).getD ('\x7b' :: name ++ ['\x7d']) ++ fill value? none s
      else fill value? (some (name ++ [c])) s

/-- The value of the one variable. -/
def only (name value : List Char) (other : List Char) : Option (List Char) :=
  if other = name then some value else none

variable {name value m s t : List Char} {value? later? : List Char → Option (List Char)}

theorem Braceless.concat (h : Braceless m) {c : Char} (hopen : c ≠ '\x7b') (hclose : c ≠ '\x7d') :
    Braceless (m ++ [c]) :=
  ⟨by simpa using ⟨h.1, hopen.symm⟩, by simpa using ⟨h.2, hclose.symm⟩⟩

/-! ## One variable -/

/-- Nothing is replaced where no brace opens. -/
theorem replaceChars_append (h : '\x7b' ∉ m) :
    Text.replaceChars '\x7b' name value (m ++ s) =
      m ++ Text.replaceChars '\x7b' name value s := by
  induction m with
  | nil => rfl
  | cons c m ih =>
      rw [List.mem_cons, not_or] at h
      rw [List.cons_append, Text.replaceChars_of_ne (Ne.symm h.1), ih h.2, List.cons_append]

/-- A name with its closing brace does not start a text in which a brace comes first that opens. -/
theorem not_prefix_of_open (hname : Braceless name) (h : Braceless m) :
    ¬ name ++ ['\x7d'] <+: m ++ '\x7b' :: s := by
  rintro ⟨rest, heq⟩
  have hopen : '\x7b' ∉ name ++ ['\x7d'] := by simpa using hname.1
  exact h.2 ((Text.prefix_of_append_eq hopen heq.symm).subset (by simp))

/-- Replacing one variable fills its name alone. The second part is about a text in which a brace
has been opened and `m` stands behind it. -/
theorem replaceChars_eq_fill (hname : Braceless name) (s : List Char) :
    Text.replaceChars '\x7b' (name ++ ['\x7d']) value s = fill (only name value) none s ∧
      ∀ m, Braceless m → Text.replaceChars '\x7b' (name ++ ['\x7d']) value ('\x7b' :: (m ++ s)) =
        fill (only name value) (some m) s := by
  induction s with
  | nil =>
      refine ⟨Text.replaceChars_nil, fun m hm => ?_⟩
      have hnone : Text.afterStart? (name ++ ['\x7d']) (m ++ []) = none :=
        Text.afterStart?_eq_none_of (fun h => hm.2 (by simpa using h.subset (by simp)))
      rw [Text.replaceChars_of_none hnone, replaceChars_append hm.1, Text.replaceChars_nil,
        List.append_nil, fill]
  | cons c s ih =>
      constructor
      · by_cases hopen : c = '\x7b'
        · rw [hopen, fill, if_pos rfl]
          exact ih.2 [] ⟨List.not_mem_nil, List.not_mem_nil⟩
        · rw [Text.replaceChars_of_ne hopen, fill, if_neg hopen, ih.1]
      · intro m hm
        by_cases hopen : c = '\x7b'
        · subst hopen
          have hnone := Text.afterStart?_eq_none_of (not_prefix_of_open (s := s) hname hm)
          rw [Text.replaceChars_of_none hnone, replaceChars_append hm.1, fill, if_pos rfl]
          exact congrArg (fun t => '\x7b' :: (m ++ t))
            (ih.2 [] ⟨List.not_mem_nil, List.not_mem_nil⟩)
        by_cases hclose : c = '\x7d'
        · subst hclose
          rw [fill, if_neg hopen, if_pos rfl, only, ← ih.1]
          split
          case isTrue heq =>
            subst heq
            exact Text.replaceChars_of_some (Text.afterStart?_eq_some_iff.2 (by simp))
          case isFalse hne =>
            have hnone : Text.afterStart? (name ++ ['\x7d']) (m ++ '\x7d' :: s) = none := by
              refine Text.afterStart?_eq_none_of (fun ⟨rest, heq⟩ => hne ?_)
              rw [List.append_assoc] at heq
              exact (Text.cut_first hname.2 hm.2 heq).1.symm
            rw [Text.replaceChars_of_none hnone, replaceChars_append hm.1,
              Text.replaceChars_of_ne hopen]
            simp
        · rw [fill, if_neg hopen, if_neg hclose, ← ih.2 _ (hm.concat hopen hclose),
            List.append_assoc]
          rfl

/-! ## All variables -/

/-- Nothing is filled where no brace opens. -/
theorem fill_none_append (h : '\x7b' ∉ m) :
    fill value? none (m ++ s) = m ++ fill value? none s := by
  induction m with
  | nil => rfl
  | cons c m ih =>
      rw [List.mem_cons, not_or] at h
      rw [List.cons_append, fill, if_neg (Ne.symm h.1), ih h.2, List.cons_append]

/-- What stands behind an opening brace is read to its end. -/
theorem fill_some_append (h : Braceless m) :
    fill value? (some name) (m ++ s) = fill value? (some (name ++ m)) s := by
  induction m generalizing name with
  | nil => rw [List.nil_append, List.append_nil]
  | cons c m ih =>
      obtain ⟨hopen, hclose⟩ := h
      rw [List.mem_cons, not_or] at hopen hclose
      rw [List.cons_append, fill, if_neg (Ne.symm hopen.1), if_neg (Ne.symm hclose.1),
        ih ⟨hopen.2, hclose.2⟩, List.append_assoc]
      rfl

/-- Opening a brace and reading on. -/
theorem fill_open (h : Braceless m) :
    fill value? none ('\x7b' :: (m ++ s)) = fill value? (some m) s := by
  rw [fill, if_pos rfl, fill_some_append h, List.nil_append]

/-- Filling twice is filling once, with the first values before the later ones, when the first
values open no brace. -/
theorem fill_fill (hvalue : ∀ name value, value? name = some value → '\x7b' ∉ value)
    (s : List Char) :
    (unnested false s →
        fill later? none (fill value? none s) = fill (fun n => (value? n).or (later? n)) none s) ∧
      ∀ m, Braceless m → unnested true s →
        fill later? none (fill value? (some m) s) =
          fill (fun n => (value? n).or (later? n)) (some m) s := by
  induction s with
  | nil =>
      refine ⟨fun _ => rfl, fun m hm _ => ?_⟩
      have hopen : fill later? none ('\x7b' :: (m ++ [])) = fill later? (some m) [] := fill_open hm
      rwa [List.append_nil] at hopen
  | cons c s ih =>
      refine ⟨fun hflat => ?_, fun m hm hflat => ?_⟩
      · by_cases hopen : c = '\x7b'
        · rw [unnested, if_pos hopen] at hflat
          rw [fill, if_pos hopen, fill, if_pos hopen]
          exact ih.2 [] ⟨List.not_mem_nil, List.not_mem_nil⟩ hflat
        · have hrest : unnested false s := by
            rw [unnested, if_neg hopen, ite_self] at hflat
            exact hflat
          rw [fill, if_neg hopen, fill, if_neg hopen, fill, if_neg hopen, ih.1 hrest]
      · by_cases hopen : c = '\x7b'
        · rw [unnested, if_pos hopen] at hflat
          cases hflat
        by_cases hclose : c = '\x7d'
        · rw [unnested, if_neg hopen, if_pos hclose] at hflat
          subst hclose
          rw [fill, if_neg hopen, if_pos rfl, fill, if_neg hopen, if_pos rfl, ← ih.1 hflat]
          cases hname : value? m with
          | some value => exact fill_none_append (hvalue m value hname)
          | none =>
              show fill later? none (('\x7b' :: m ++ ['\x7d']) ++ fill value? none s) = _
              rw [List.append_assoc, List.cons_append, fill_open hm, List.singleton_append, fill,
                if_neg hopen, if_pos rfl, Option.none_or]
        · rw [unnested, if_neg hopen, if_neg hclose] at hflat
          rw [fill, if_neg hopen, if_neg hclose, fill, if_neg hopen, if_neg hclose]
          exact ih.2 _ (hm.concat hopen hclose) hflat

/-- Without values the text stays. -/
theorem fill_nothing (s : List Char) :
    fill (fun _ => none) none s = s ∧
      ∀ m, fill (fun _ => none) (some m) s = '\x7b' :: (m ++ s) := by
  induction s with
  | nil => exact ⟨rfl, fun m => by rw [fill, List.append_nil]⟩
  | cons c s ih =>
      refine ⟨?_, fun m => ?_⟩
      · by_cases hopen : c = '\x7b'
        · rw [fill, if_pos hopen, ih.2, hopen, List.nil_append]
        · rw [fill, if_neg hopen, ih.1]
      · rw [fill, ih.1, ih.2, ih.2]
        split
        case isTrue hopen => simp [hopen]
        case isFalse => split <;> simp_all

/-- The values of variables. -/
def valueOf (defaults : List (String × String)) (name : List Char) : Option (List Char) :=
  (defaults.lookup (String.ofList name)).map String.toList

variable {defaults : List (String × String)}

theorem valueOf_concat (defaults : List (String × String)) (v : String × String) :
    valueOf (defaults ++ [v]) =
      fun name => (valueOf defaults name).or (only v.1.toList v.2.toList name) := by
  funext name
  rw [valueOf, valueOf, List.lookup_append, Option.map_or, only]
  congr 1
  by_cases heq : name = v.1.toList
  · rw [if_pos heq, heq, String.ofList_toList, List.lookup_cons, beq_self_eq_true]
    rfl
  · have hne : (String.ofList name == v.1) = false := by
      refine beq_eq_false_iff_ne.2 (fun h => heq ?_)
      rw [← h, String.toList_ofList]
    rw [if_neg heq, List.lookup_cons, hne]
    rfl

theorem exists_of_valueOf {name value : List Char} (h : valueOf defaults name = some value) :
    ∃ v ∈ defaults, value = v.2.toList := by
  obtain ⟨value, hlookup, rfl⟩ := Option.map_eq_some_iff.1 h
  obtain ⟨before, after, rfl, -⟩ := List.lookup_eq_some_iff.1 hlookup
  exact ⟨_, List.mem_append_right _ List.mem_cons_self, rfl⟩

/-- The values of variables with distinct names do not depend on their order. -/
theorem valueOf_eq_of_perm {other : List (String × String)} (h : (defaults.map Prod.fst).Nodup)
    (hperm : other.Perm defaults) : valueOf other = valueOf defaults := by
  have hlookup : ∀ ds : List (String × String), (ds.map Prod.fst).Nodup → ∀ name value,
      ds.lookup name = some value ↔ (name, value) ∈ ds := by
    intro ds hnodup name value
    refine ⟨fun hfound => ?_, lookup_eq_some_of_mem hnodup⟩
    obtain ⟨before, after, rfl, -⟩ := List.lookup_eq_some_iff.1 hfound
    exact List.mem_append_right _ List.mem_cons_self
  have hother : (other.map Prod.fst).Nodup := (hperm.map Prod.fst).nodup_iff.2 h
  funext name
  refine congrArg (Option.map String.toList) (Option.ext (fun value => ?_))
  rw [hlookup other hother, hlookup defaults h, hperm.mem_iff]

/-- Replacing a variable in a text fills its name. -/
theorem substitute_eq_fill {v : String × String} (h : Braceless v.1.toList) (s : List Char) :
    substitute (String.ofList s) v =
      String.ofList (fill (only v.1.toList v.2.toList) none s) := by
  have hmark : ("\x7b" ++ v.1 ++ "\x7d").toList = '\x7b' :: (v.1.toList ++ ['\x7d']) := by simp
  rw [substitute, Text.replace_ofList hmark, (replaceChars_eq_fill h s).1]

/-- Variables that are replaced one after the other are replaced at once. -/
theorem foldl_substitute_eq_fill {url : String}
    (hnames : ∀ v ∈ defaults, Braceless v.1.toList)
    (hvalues : ∀ v ∈ defaults, '\x7b' ∉ v.2.toList) (hurl : unnested false url.toList) :
    defaults.foldl substitute url = String.ofList (fill (valueOf defaults) none url.toList) := by
  induction defaults using List.reverseRecOn with
  | nil => exact (String.ofList_toList.symm).trans (congrArg _ (fill_nothing _).1.symm)
  | append_singleton defaults v ih =>
      have hbefore := ih (fun w hw => hnames w (List.mem_append_left _ hw))
        (fun w hw => hvalues w (List.mem_append_left _ hw))
      have hopen : ∀ name value, valueOf defaults name = some value → '\x7b' ∉ value := by
        intro name value h
        obtain ⟨w, hw, rfl⟩ := exists_of_valueOf h
        exact hvalues w (List.mem_append_left _ hw)
      rw [List.foldl_append, hbefore, List.foldl_cons, List.foldl_nil,
        substitute_eq_fill (hnames v (by simp)), (fill_fill hopen _).1 hurl, valueOf_concat]

/-- A server whose variables do not depend on each other. -/
structure Server.IsPlain (s : Server) : Prop where
  /-- No two variables have one name. -/
  nodup_names : (s.defaults.map Prod.fst).Nodup
  /-- No name has a brace. -/
  braceless_name : ∀ v ∈ s.defaults, Braceless v.1.toList
  /-- No default opens a brace. -/
  open_not_mem_value : ∀ v ∈ s.defaults, '\x7b' ∉ v.2.toList
  /-- No brace opens inside another one. -/
  unnested_url : unnested false s.url.toList

/-- The address of a server whose variables are replaced at once. -/
def Server.filled (s : Server) : String :=
  Text.dropEnd "/" (String.ofList (fill (valueOf s.defaults) none s.url.toList))

theorem Server.IsPlain.address_eq {s : Server} (h : s.IsPlain) : s.address = s.filled := by
  rw [address, foldl_substitute_eq_fill h.braceless_name h.open_not_mem_value h.unnested_url,
    filled]

theorem Server.IsPlain.of_perm {s : Server} (h : s.IsPlain) (hperm : defaults.Perm s.defaults) :
    IsPlain { s with defaults } where
  nodup_names := (hperm.map Prod.fst).nodup_iff.2 h.nodup_names
  braceless_name := fun v hv => h.braceless_name v (hperm.mem_iff.1 hv)
  open_not_mem_value := fun v hv => h.open_not_mem_value v (hperm.mem_iff.1 hv)
  unnested_url := h.unnested_url

/-- When the variables of the first server do not depend on each other, every order in which they
are replaced gives one address, in which they are replaced at once. -/
theorem server_reordered (t : Document) {s : Server} {rest : List (Option Server)}
    (hservers : t.servers = some s :: rest) (hplain : s.IsPlain) :
    t.server = s.filled ∧ ∀ defaults, defaults.Perm s.defaults →
      Document.server { t with servers := some { s with defaults } :: rest } = t.server := by
  have hserver : t.server = s.filled := by
    rw [Document.server, hservers]
    exact hplain.address_eq
  refine ⟨hserver, fun defaults hperm => ?_⟩
  show Server.address { s with defaults } = _
  rw [(hplain.of_perm hperm).address_eq, hserver, Server.filled, Server.filled,
    valueOf_eq_of_perm hplain.nodup_names hperm]

/-- A host and a port can be filled in either order. -/
theorem server_reordered_host_port :
    let url := "https://\x7bhost\x7d:\x7bport\x7d/"
    Document.server ⟨[some ⟨url, [("host", "a"), ("port", "80")]⟩], [], []⟩ = "https://a:80" ∧
      Document.server ⟨[some ⟨url, [("port", "80"), ("host", "a")]⟩], [], []⟩ = "https://a:80" := by
  intro url
  have hplain : Server.IsPlain ⟨url, [("host", "a"), ("port", "80")]⟩ :=
    ⟨by decide, by decide, by decide, by decide⟩
  obtain ⟨hserver, hother⟩ := server_reordered ⟨[some ⟨url, _⟩], [], []⟩ rfl hplain
  have hfilled : Document.server ⟨[some ⟨url, [("host", "a"), ("port", "80")]⟩], [], []⟩ =
      "https://a:80" := hserver.trans (by decide)
  exact ⟨hfilled, (hother _ (.swap _ _ _)).trans hfilled⟩

/-- Two orders can differ when a default opens a brace, when a brace opens inside another one, and
when a name has a brace. -/
theorem address_disordered :
    (Server.address ⟨"\x7ba\x7d", [("a", "\x7bb\x7d"), ("b", "x")]⟩ = "x" ∧
        Server.address ⟨"\x7ba\x7d", [("b", "x"), ("a", "\x7bb\x7d")]⟩ = "\x7bb\x7d") ∧
      (Server.address ⟨"\x7b\x7ba\x7d\x7d", [("a", "b"), ("b", "x")]⟩ = "x" ∧
        Server.address ⟨"\x7b\x7ba\x7d\x7d", [("b", "x"), ("a", "b")]⟩ = "\x7bb\x7d") ∧
      (Server.address ⟨"\x7ba\x7db\x7d", [("a", "x"), ("a\x7db", "y")]⟩ = "xb\x7d" ∧
        Server.address ⟨"\x7ba\x7db\x7d", [("a\x7db", "y"), ("a", "x")]⟩ = "y") := by
  decide +kernel

end V3

end TypedClient
