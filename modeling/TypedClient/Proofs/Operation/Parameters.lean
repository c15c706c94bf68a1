import Mathlib.Data.List.Forall2
import Mathlib.Data.List.Induction
import Mathlib.Data.List.Nodup
import TypedClient.Operation.Parameters

/-!
# The parameters of a path and of an operation put together

A request tells parameters apart by their location and their name. `merge_arranged` says what the
merged list of a path and an operation holds, in terms of where each of its parameters is declared:
which declarations stay, what becomes of the flag `required`, and in what order they come.

Every declaration has a slot. The parameters of the path have their positions as slots, and those
of the operation take the slot of what they replace, or one behind the path. `InSlots` says that
what stays stands in ascending slots. `InSlots.place` is the step for one more parameter of the
operation, and `exists_inSlots` the run over all of them; `InSlots.isMerge` moves the required
ones to the front.
-/

namespace TypedClient

namespace Parameter

/-- What a request tells parameters apart by: where they travel and their name there. -/
def wire (p : Parameter) : Location × String :=
  (p.location, p.name)

/-- At known locations the keys of parameters tell apart what a request tells apart. -/
theorem key_eq_iff {p q : Parameter} (hp : p.location ∈ Location.known)
    (hq : q.location ∈ Location.known) : p.key = q.key ↔ p.wire = q.wire := by
  -- the words for the known locations start with different letters
  have hstart : ∀ a ∈ Location.known, ∀ b ∈ Location.known,
      a.label.toList.head? = b.label.toList.head? → a = b := by decide
  have hlabel : ∀ a ∈ Location.known, a.label.toList ≠ [] := by decide
  constructor
  · intro h
    have hlists : p.location.label.toList ++ (":".toList ++ p.name.toList) =
        q.location.label.toList ++ (":".toList ++ q.name.toList) := by
      simpa [key] using congrArg String.toList h
    have hhead := congrArg List.head? hlists
    rw [List.head?_append_of_ne_nil _ (hlabel _ hp),
      List.head?_append_of_ne_nil _ (hlabel _ hq)] at hhead
    have hlocation := hstart _ hp _ hq hhead
    rw [hlocation, List.append_cancel_left_eq, List.append_cancel_left_eq,
      String.toList_inj] at hlists
    exact Prod.ext hlocation hlists
  · intro h
    obtain ⟨hlocation, hname⟩ := Prod.mk.inj h
    rw [key, key, hlocation, hname]

/-- The position of the last parameter that a request finds at a place. -/
def lastAt? (w : Location × String) : List Parameter → Option Nat
  | [] => none
  | q :: rest =>
      match lastAt? w rest with
      | some i => some (i + 1)
      | none => if q.wire = w then some 0 else none

variable {w : Location × String} {p : Parameter} {ps : List Parameter}

theorem lastAt?_eq_none_iff : lastAt? w ps = none ↔ ∀ q ∈ ps, q.wire ≠ w := by
  induction ps with
  | nil => simp [lastAt?]
  | cons q rest ih =>
      rw [List.forall_mem_cons, ← ih, lastAt?]
      cases lastAt? w rest <;> simp

theorem lastAt?_eq_some_iff {n : Nat} : lastAt? w ps = some n ↔
    (∃ q, ps[n]? = some q ∧ q.wire = w) ∧ ∀ q ∈ ps.drop (n + 1), q.wire ≠ w := by
  induction ps generalizing n with
  | nil => simp [lastAt?]
  | cons q rest ih =>
      rw [lastAt?, List.drop_succ_cons]
      cases n with
      | zero =>
          rw [List.drop_zero, ← lastAt?_eq_none_iff]
          cases lastAt? w rest <;> simp
      | succ n =>
          rw [List.getElem?_cons_succ, ← ih]
          cases lastAt? w rest <;> simp

/-- A parameter goes to the place of the last one that a request does not tell apart from it, or to
the end. -/
theorem place_cases (h : ∀ q ∈ ps, q.key = p.key ↔ q.wire = p.wire) :
    (∃ before q after, ps = before ++ q :: after ∧ q.wire = p.wire ∧
      (∀ r ∈ after, r.wire ≠ p.wire) ∧ place ps p = before ++ p :: after) ∨
    (∀ q ∈ ps, q.wire ≠ p.wire) ∧ place ps p = ps ++ [p] := by
  have hreplace : (∃ before q after, ps = before ++ q :: after ∧ q.wire = p.wire ∧
      (∀ r ∈ after, r.wire ≠ p.wire) ∧ replaceLast? p ps = some (before ++ p :: after)) ∨
      (∀ q ∈ ps, q.wire ≠ p.wire) ∧ replaceLast? p ps = none := by
    induction ps with
    | nil => exact .inr ⟨fun _ hq => absurd hq List.not_mem_nil, rfl⟩
    | cons first rest ih =>
        obtain ⟨hfirst, hrest⟩ := List.forall_mem_cons.1 h
        rw [replaceLast?]
        obtain ⟨before, q, after, rfl, hq, hafter, heq⟩ | ⟨hnone, heq⟩ := ih hrest
        · exact .inl ⟨first :: before, q, after, rfl, hq, hafter, by rw [heq, List.cons_append]⟩
        · rw [heq]
          by_cases hwire : first.wire = p.wire
          · exact .inl ⟨[], first, rest, rfl, hwire, hnone, if_pos (hfirst.2 hwire)⟩
          · exact .inr ⟨List.forall_mem_cons.2 ⟨hwire, hnone⟩, if_neg (mt hfirst.1 hwire)⟩
  obtain ⟨before, q, after, hps, hq, hafter, heq⟩ | ⟨hnone, heq⟩ := hreplace
  · exact .inl ⟨before, q, after, hps, hq, hafter, by rw [place, heq, Option.getD_some]⟩
  · exact .inr ⟨hnone, by rw [place, heq, Option.getD_none]⟩

/-! ## Where parameters are declared -/

/-- Where a parameter is declared: at a position of the path's list or of the operation's own. -/
inductive Origin where
  | ofPath (i : Nat)
  | own (j : Nat)
deriving DecidableEq

variable {ofPath own arranged : List Parameter} {origins : List Origin}

/-- The parameter that is declared somewhere. -/
def Origin.find? (ofPath own : List Parameter) : Origin → Option Parameter
  | .ofPath i => ofPath[i]?
  | .own j => own[j]?

/-- What stays when both lists are put together: the last of the operation's own parameters that a
request does not tell apart, and those of the path that none of them replaces. One of its own
replaces the last of the path that a request does not tell apart from it. -/
def Origin.Stays (ofPath own : List Parameter) : Origin → Prop
  | .ofPath i => ∃ p, ofPath[i]? = some p ∧
      ((∃ q ∈ own, q.wire = p.wire) → ∃ q ∈ ofPath.drop (i + 1), q.wire = p.wire)
  | .own j => ∃ p, own[j]? = some p ∧ ∀ q ∈ own.drop (j + 1), q.wire ≠ p.wire

theorem Origin.Stays.find?_eq_some {o : Origin} (h : o.Stays ofPath own) :
    ∃ p, o.find? ofPath own = some p := by
  cases o with
  | ofPath i => exact h.imp (fun _ hp => hp.1)
  | own j => exact h.imp (fun _ hp => hp.1)

theorem Origin.Stays.lastAt? {j : Nat} (h : (Origin.own j).Stays ofPath own)
    (hp : own[j]? = some p) : lastAt? p.wire own = some j := by
  obtain ⟨q, hq, hafter⟩ := h
  obtain rfl := Option.some.inj (hp.symm.trans hq)
  exact lastAt?_eq_some_iff.2 ⟨⟨p, hp, rfl⟩, hafter⟩

/-- The slot of the operation's own parameters at a place of a request: that of the last parameter
of the path there, and else one behind all those of the path, in the order in which the operation
first names the places. -/
def slotOfOwn (ofPath own : List Parameter) (w : Location × String) : Nat :=
  (lastAt? w ofPath).getD (ofPath.length + own.findIdx (fun q => q.wire = w))

/-- The slot of what is declared somewhere: a parameter of the path has its position there. -/
def Origin.slot (ofPath own : List Parameter) : Origin → Nat
  | .ofPath i => i
  | .own j => (own[j]?).elim 0 (fun p => slotOfOwn ofPath own p.wire)

/-- The parameters of a path and of an operation in their slots, with `origins` as the places where
they are declared. -/
structure InSlots (ofPath own : List Parameter) (origins : List Origin)
    (arranged : List Parameter) : Prop where
  declared : origins.map (Origin.find? ofPath own) = arranged.map some
  ascending : (origins.map (Origin.slot ofPath own)).Pairwise (· < ·)
  mem_iff : ∀ o, o ∈ origins ↔ o.Stays ofPath own

theorem Origin.slot_own {j : Nat} (h : own[j]? = some p) :
    (Origin.own j).slot ofPath own = slotOfOwn ofPath own p.wire := by
  rw [slot, h, Option.elim_some]

theorem slotOfOwn_of_lastAt? {i : Nat} (h : lastAt? w ofPath = some i) :
    slotOfOwn ofPath own w = i := by
  rw [slotOfOwn, h, Option.getD_some]

theorem slotOfOwn_of_forall (h : ∀ q ∈ ofPath, q.wire ≠ w) :
    slotOfOwn ofPath own w = ofPath.length + own.findIdx (fun q => q.wire = w) := by
  rw [slotOfOwn, lastAt?_eq_none_iff.2 h, Option.getD_none]

theorem mem_of_find? {o : Origin} (h : o.find? ofPath own = some p) : p ∈ ofPath ++ own := by
  cases o with
  | ofPath i => exact List.mem_append_left _ (List.mem_of_getElem? h)
  | own j => exact List.mem_append_right _ (List.mem_of_getElem? h)

/-- Nothing stands behind the slot of the operation's own parameters at its place. -/
theorem Origin.slot_le {o : Origin} (h : o.find? ofPath own = some p) :
    o.slot ofPath own ≤ slotOfOwn ofPath own p.wire := by
  cases o with
  | own j => exact Nat.le_of_eq (slot_own h)
  | ofPath i =>
      cases hlast : lastAt? p.wire ofPath with
      | none =>
          exact absurd rfl (lastAt?_eq_none_iff.1 hlast p (List.mem_of_getElem? h))
      | some n =>
          rw [slotOfOwn_of_lastAt? hlast]
          refine Nat.le_of_not_lt (fun hlt => ?_)
          refine (lastAt?_eq_some_iff.1 hlast).2 p (List.mem_of_getElem? (i := i - (n + 1)) ?_) rfl
          have hindex : n + 1 + (i - (n + 1)) = i := Nat.add_sub_of_le hlt
          rw [List.getElem?_drop, hindex]
          exact h

/-- The slots end with those of the operation's own parameters. -/
theorem Origin.slot_lt {o : Origin} (h : o.find? ofPath own = some p) :
    o.slot ofPath own < ofPath.length + own.length := by
  cases o with
  | ofPath i => exact Nat.lt_add_right _ (List.getElem?_eq_some_iff.1 h).1
  | own j =>
      rw [slot_own h]
      cases hlast : lastAt? p.wire ofPath with
      | none =>
          rw [slotOfOwn_of_forall (lastAt?_eq_none_iff.1 hlast)]
          refine Nat.add_lt_add_left (List.findIdx_lt_length_of_exists ⟨p, ?_, ?_⟩) _
          · exact List.mem_of_getElem? h
          · exact decide_eq_true rfl
      | some i =>
          obtain ⟨⟨q, hq, -⟩, -⟩ := lastAt?_eq_some_iff.1 hlast
          rw [slotOfOwn_of_lastAt? hlast]
          exact Nat.lt_add_right _ (List.getElem?_eq_some_iff.1 hq).1

/-- Each place that is declared has a parameter that stays, in the slot of the operation's own. -/
theorem exists_stays (h : ∃ q ∈ ofPath ++ own, q.wire = w) :
    ∃ (o : Origin) (p : Parameter), o.Stays ofPath own ∧ o.find? ofPath own = some p ∧ p.wire = w ∧
      o.slot ofPath own = slotOfOwn ofPath own w := by
  cases hown : lastAt? w own with
  | some j =>
      obtain ⟨⟨p, hp, rfl⟩, hafter⟩ := lastAt?_eq_some_iff.1 hown
      exact ⟨.own j, p, ⟨p, hp, hafter⟩, hp, rfl, Origin.slot_own hp⟩
  | none =>
      rw [lastAt?_eq_none_iff] at hown
      cases hlast : lastAt? w ofPath with
      | some i =>
          obtain ⟨⟨p, hp, rfl⟩, -⟩ := lastAt?_eq_some_iff.1 hlast
          refine ⟨.ofPath i, p, ⟨p, hp, ?_⟩, hp, rfl, (slotOfOwn_of_lastAt? hlast).symm⟩
          rintro ⟨q, hq, hwire⟩
          exact absurd hwire (hown q hq)
      | none =>
          obtain ⟨q, hq, hwire⟩ := h
          rcases List.mem_append.1 hq with hq | hq
          · exact absurd hwire (lastAt?_eq_none_iff.1 hlast q hq)
          · exact absurd hwire (hown q hq)

/-! ## One more parameter of the operation -/

theorem Origin.find?_concat {o : Origin} {q : Parameter} (h : o.find? ofPath own = some q) :
    o.find? ofPath (own ++ [p]) = some q := by
  cases o with
  | ofPath i => exact h
  | own j =>
      exact (List.getElem?_append_left (List.getElem?_eq_some_iff.1 h).1).trans h

theorem slotOfOwn_concat (h : ∃ q ∈ ofPath ++ own, q.wire = w) :
    slotOfOwn ofPath (own ++ [p]) w = slotOfOwn ofPath own w := by
  cases hlast : lastAt? w ofPath with
  | some i => rw [slotOfOwn_of_lastAt? hlast, slotOfOwn_of_lastAt? hlast]
  | none =>
      have hnot := lastAt?_eq_none_iff.1 hlast
      rw [slotOfOwn_of_forall hnot, slotOfOwn_of_forall hnot, List.findIdx_append, if_pos]
      obtain ⟨q, hq, hwire⟩ := h
      rcases List.mem_append.1 hq with hq | hq
      · exact absurd hwire (hnot q hq)
      · exact List.findIdx_lt_length_of_exists ⟨q, hq, decide_eq_true hwire⟩

theorem Origin.slot_concat {o : Origin} {q : Parameter} (h : o.find? ofPath own = some q) :
    o.slot ofPath (own ++ [p]) = o.slot ofPath own := by
  cases o with
  | ofPath i => rfl
  | own j =>
      rw [slot_own h, slot_own (find?_concat h : (Origin.own j).find? ofPath _ = _)]
      exact slotOfOwn_concat ⟨q, List.mem_append_right _ (List.mem_of_getElem? h), rfl⟩

/-- A further parameter of the operation stays, and of the others all but the one in its slot. -/
theorem Origin.stays_concat_iff {o : Origin} : o.Stays ofPath (own ++ [p]) ↔
    o = .own own.length ∨ o.Stays ofPath own ∧ ∀ q, o.find? ofPath own = some q →
      q.wire = p.wire → o.slot ofPath own ≠ slotOfOwn ofPath own p.wire := by
  cases o with
  | own j =>
      simp only [Stays, Origin.own.injEq]
      rcases Nat.lt_trichotomy j own.length with hj | rfl | hj
      · -- one of the others stays unless the new one is at its place
        have hdrop : (own ++ [p]).drop (j + 1) = own.drop (j + 1) ++ [p] :=
          List.drop_append_of_le_length hj
        rw [List.getElem?_append_left hj, hdrop]
        constructor
        · rintro ⟨q, hq, hafter⟩
          obtain ⟨hafter, hp⟩ := List.forall_mem_append.1 hafter
          refine .inr ⟨⟨q, hq, hafter⟩, fun r hr hwire => ?_⟩
          obtain rfl := Option.some.inj (hq.symm.trans hr)
          exact absurd hwire.symm (hp p List.mem_cons_self)
        · rintro (heq | ⟨⟨q, hq, hafter⟩, hslot⟩)
          · omega
          · refine ⟨q, hq, List.forall_mem_append.2 ⟨hafter, List.forall_mem_singleton.2 ?_⟩⟩
            intro hwire
            exact hslot q hq hwire.symm ((slot_own hq).trans (by rw [hwire]))
      · simp
      · have hnone : (own ++ [p])[j]? = none := by
          rw [List.getElem?_eq_none_iff, List.length_append, List.length_singleton]
          exact hj
        have hown : own[j]? = none := List.getElem?_eq_none_iff.2 (Nat.le_of_lt hj)
        rw [hnone, hown]
        simp only [reduceCtorEq, false_and, exists_false, or_false, false_iff]
        omega
  | ofPath i =>
      simp only [Stays, reduceCtorEq, false_or, List.mem_append, List.mem_singleton]
      constructor
      · rintro ⟨q, hq, hlater⟩
        refine ⟨⟨q, hq, fun ⟨r, hr, hwire⟩ => hlater ⟨r, .inl hr, hwire⟩⟩, ?_⟩
        intro r hr hwire hslot
        obtain rfl := Option.some.inj (hq.symm.trans hr)
        obtain ⟨s, hs, hsame⟩ := hlater ⟨p, .inr rfl, hwire.symm⟩
        cases hlast : lastAt? p.wire ofPath with
        | none => exact lastAt?_eq_none_iff.1 hlast q (List.mem_of_getElem? hq) hwire
        | some n =>
            rw [slotOfOwn_of_lastAt? hlast] at hslot
            obtain rfl : i = n := hslot
            exact (lastAt?_eq_some_iff.1 hlast).2 s hs (hsame.trans hwire)
      · rintro ⟨⟨q, hq, hlater⟩, hslot⟩
        refine ⟨q, hq, ?_⟩
        rintro ⟨r, hr | rfl, hwire⟩
        · exact hlater ⟨r, hr, hwire⟩
        · by_contra hnone
          have hlast : lastAt? r.wire ofPath = some i :=
            lastAt?_eq_some_iff.2 ⟨⟨q, hq, hwire.symm⟩, fun s hs hsame =>
              hnone ⟨s, hs, hsame.trans hwire⟩⟩
          exact hslot q hq hwire.symm (slotOfOwn_of_lastAt? hlast).symm

namespace InSlots

/-- What is arranged is declared, and stays. -/
theorem exists_of_mem (h : InSlots ofPath own origins arranged) (hp : p ∈ arranged) :
    ∃ o ∈ origins, o.find? ofPath own = some p := by
  have hmem : some p ∈ origins.map (Origin.find? ofPath own) :=
    h.declared ▸ List.mem_map_of_mem hp
  obtain ⟨o, ho, heq⟩ := List.mem_map.1 hmem
  exact ⟨o, ho, heq⟩

theorem find?_isSome (h : InSlots ofPath own origins arranged) {o : Origin} (ho : o ∈ origins) :
    ∃ q ∈ arranged, o.find? ofPath own = some q := by
  have hmem : o.find? ofPath own ∈ arranged.map some :=
    h.declared ▸ List.mem_map_of_mem ho
  obtain ⟨q, hq, heq⟩ := List.mem_map.1 hmem
  exact ⟨q, hq, heq.symm⟩

theorem slots_nodup (h : InSlots ofPath own origins arranged) :
    (origins.map (Origin.slot ofPath own)).Nodup :=
  h.ascending.imp Nat.ne_of_lt

/-- In one slot stands one parameter. -/
theorem eq_of_slot_eq (h : InSlots ofPath own origins arranged) {a b : Origin} (ha : a ∈ origins)
    (hb : b ∈ origins) (heq : a.slot ofPath own = b.slot ofPath own) : a = b :=
  List.inj_on_of_nodup_map h.slots_nodup ha hb heq

/-- Nothing is arranged twice. -/
theorem nodup (h : InSlots ofPath own origins arranged) : origins.Nodup :=
  h.slots_nodup.of_map

/-- Without parameters of the operation those of the path are arranged as they are. -/
theorem nil (ofPath : List Parameter) :
    InSlots ofPath [] ((List.range ofPath.length).map Origin.ofPath) ofPath where
  declared := by
    rw [List.map_map]
    refine List.ext_getElem? (fun i => ?_)
    rw [List.getElem?_map, List.getElem?_map]
    by_cases hi : i < ofPath.length
    · simp [hi, Origin.find?]
    · simp [hi]
  ascending := by
    have hslots : ((List.range ofPath.length).map Origin.ofPath).map (Origin.slot ofPath []) =
        List.range ofPath.length := by
      rw [List.map_map]
      exact List.map_id _
    rw [hslots]
    exact List.pairwise_lt_range
  mem_iff := by
    intro o
    cases o with
    | ofPath i => simp [Origin.Stays, List.getElem?_eq_some_iff]
    | own j => simp [Origin.Stays]

/-- The last of the arranged parameters at a place stands in the slot of the operation's own. -/
theorem slot_last (h : InSlots ofPath own origins arranged) {before after : List Origin}
    {o : Origin} (horigins : origins = before ++ o :: after) {q : Parameter}
    (hq : o.find? ofPath own = some q)
    (hafter : ∀ a ∈ after, ∀ r, a.find? ofPath own = some r → r.wire ≠ q.wire) :
    o.slot ofPath own = slotOfOwn ofPath own q.wire := by
  obtain ⟨o', r, hstays, hr, hwire, hslot⟩ := exists_stays ⟨q, mem_of_find? hq, rfl⟩
  have hmem : o' ∈ before ++ o :: after := horigins ▸ (h.mem_iff o').2 hstays
  have hascending := h.ascending
  rw [horigins, List.pairwise_map, List.pairwise_append] at hascending
  have hle := Origin.slot_le hq
  rcases List.mem_append.1 hmem with hmem | hmem
  · have hlt := hascending.2.2 o' hmem o List.mem_cons_self
    omega
  · rcases List.mem_cons.1 hmem with rfl | hmem
    · exact hslot
    · exact absurd hwire (hafter o' hmem r hr)

/-- What is arranged keeps its slot and its declaration when the operation has one more. -/
theorem map_concat (h : InSlots ofPath own origins arranged) (p : Parameter) (kept : List Origin)
    (hkept : ∀ o ∈ kept, o ∈ origins) :
    kept.map (Origin.find? ofPath (own ++ [p])) = kept.map (Origin.find? ofPath own) ∧
      kept.map (Origin.slot ofPath (own ++ [p])) = kept.map (Origin.slot ofPath own) := by
  refine ⟨List.map_congr_left (fun o ho => ?_), List.map_congr_left (fun o ho => ?_)⟩
  · obtain ⟨q, -, hq⟩ := h.find?_isSome (hkept o ho)
    rw [hq, Origin.find?_concat hq]
  · obtain ⟨q, -, hq⟩ := h.find?_isSome (hkept o ho)
    exact Origin.slot_concat hq

/-- A parameter of the operation takes the slot of what it replaces. -/
theorem replace (h : InSlots ofPath own origins arranged) {before after : List Parameter}
    {q : Parameter} (harranged : arranged = before ++ q :: after) (hq : q.wire = p.wire)
    (hafter : ∀ r ∈ after, r.wire ≠ p.wire) :
    ∃ origins, InSlots ofPath (own ++ [p]) origins (before ++ p :: after) := by
  have hdeclared := h.declared
  rw [harranged, List.map_append, List.map_cons, List.map_eq_append_iff] at hdeclared
  obtain ⟨start, rest, horigins, hstart, hrest⟩ := hdeclared
  obtain ⟨o, final, rfl, ho, hfinal⟩ := List.map_eq_cons_iff.1 hrest
  have hmem : o ∈ origins := horigins ▸ List.mem_append_right _ List.mem_cons_self
  have hslot : o.slot ofPath own = slotOfOwn ofPath own p.wire := by
    rw [← hq]
    refine h.slot_last horigins ho (fun a ha r hr => ?_)
    have hmem : a.find? ofPath own ∈ after.map some := hfinal ▸ List.mem_map_of_mem ha
    obtain ⟨r', hr', heq⟩ := List.mem_map.1 hmem
    obtain rfl := Option.some.inj (heq.trans hr)
    exact hq ▸ hafter r' hr'
  obtain ⟨hstart', hstartSlots⟩ := h.map_concat p start
    (fun a ha => horigins ▸ List.mem_append_left _ ha)
  obtain ⟨hfinal', hfinalSlots⟩ := h.map_concat p final
    (fun a ha => horigins ▸ List.mem_append_right _ (List.mem_cons_of_mem _ ha))
  have hnew : (own ++ [p])[own.length]? = some p := List.getElem?_concat_length
  refine ⟨start ++ .own own.length :: final, ?_, ?_, fun a => ?_⟩
  · rw [List.map_append, List.map_cons, hstart', hstart, hfinal', hfinal, List.map_append,
      List.map_cons]
    exact congrArg (fun found => before.map some ++ found :: after.map some) hnew
  · -- the new one has the slot of the one that it replaces
    have hsame : (Origin.own own.length).slot ofPath (own ++ [p]) = o.slot ofPath own := by
      rw [Origin.slot_own hnew, hslot]
      refine slotOfOwn_concat ⟨q, ?_, hq⟩
      exact mem_of_find? ho
    rw [List.map_append, List.map_cons, hstartSlots, hfinalSlots, hsame, ← List.map_cons,
      ← List.map_append, ← horigins]
    exact h.ascending
  · have hnodup := h.nodup
    rw [horigins, List.nodup_middle, List.nodup_cons] at hnodup
    have hothers : a ∈ start ++ final ↔ a ∈ origins ∧ a ≠ o := by
      rw [horigins, List.perm_middle.mem_iff, List.mem_cons]
      constructor
      · intro ha
        exact ⟨.inr ha, fun heq => hnodup.1 (heq ▸ ha)⟩
      · rintro ⟨heq | ha, hne⟩
        · exact absurd heq hne
        · exact ha
    rw [List.perm_middle.mem_iff, List.mem_cons, hothers, Origin.stays_concat_iff, h.mem_iff]
    refine or_congr_right (and_congr_right (fun hstays => ?_))
    constructor
    · intro hne r _ _ heq
      exact hne (h.eq_of_slot_eq ((h.mem_iff a).2 hstays) hmem (heq.trans hslot.symm))
    · rintro hslots rfl
      exact hslots q ho hq hslot

/-- A parameter of the operation that replaces none goes to the end. -/
theorem concat (h : InSlots ofPath own origins arranged) (hnew : ∀ q ∈ arranged, q.wire ≠ p.wire) :
    InSlots ofPath (own ++ [p]) (origins ++ [.own own.length]) (arranged ++ [p]) := by
  obtain ⟨hfind, hslots⟩ := h.map_concat p origins (fun _ ho => ho)
  have hfound : (own ++ [p])[own.length]? = some p := List.getElem?_concat_length
  -- what has no place among those that are arranged has none among those that are declared
  have hnone : ∀ q ∈ ofPath ++ own, q.wire ≠ p.wire := by
    intro q hq hwire
    obtain ⟨o, r, hstays, hr, hsame, -⟩ := exists_stays ⟨q, hq, hwire⟩
    obtain ⟨r', hr', heq⟩ := h.find?_isSome ((h.mem_iff o).2 hstays)
    obtain rfl := Option.some.inj (heq.symm.trans hr)
    exact hnew r' hr' hsame
  obtain ⟨hofPath, hown⟩ := List.forall_mem_append.1 hnone
  refine ⟨?_, ?_, fun a => ?_⟩
  · rw [List.map_append, hfind, h.declared, List.map_append]
    exact congrArg (fun found => arranged.map some ++ [found]) hfound
  · have hlast : (Origin.own own.length).slot ofPath (own ++ [p]) = ofPath.length + own.length := by
      rw [Origin.slot_own hfound, slotOfOwn_of_forall hofPath, List.findIdx_append, if_neg]
      · simp
      · simpa using hown
    rw [List.map_append, hslots, List.map_singleton, hlast, List.pairwise_append]
    refine ⟨h.ascending, List.pairwise_singleton _ _, ?_⟩
    simp only [List.mem_map, List.mem_singleton]
    rintro _ ⟨o, ho, rfl⟩ _ rfl
    obtain ⟨q, -, hq⟩ := h.find?_isSome ho
    exact Origin.slot_lt hq
  · rw [List.mem_append, List.mem_singleton, or_comm, h.mem_iff, Origin.stays_concat_iff]
    refine or_congr_right ⟨fun hstays => ⟨hstays, ?_⟩, And.left⟩
    intro q hq hwire
    exact absurd hwire (hnone q (mem_of_find? hq))

/-- One step of the merge keeps the parameters arranged. -/
theorem place (h : InSlots ofPath own origins arranged)
    (hkey : ∀ q ∈ arranged, q.key = p.key ↔ q.wire = p.wire) :
    ∃ origins, InSlots ofPath (own ++ [p]) origins (Parameter.place arranged p) := by
  obtain ⟨before, q, after, hsplit, hq, hafter, heq⟩ | ⟨hnew, heq⟩ := place_cases hkey
  · exact heq ▸ h.replace hsplit hq hafter
  · exact ⟨_, heq ▸ h.concat hnew⟩

end InSlots

/-- Parameters at known locations are arranged when all those of the operation are placed. -/
theorem exists_inSlots (hknown : ∀ p ∈ ofPath ++ own, p.location ∈ Location.known) :
    ∃ origins, InSlots ofPath own origins (own.foldl Parameter.place ofPath) := by
  induction own using List.reverseRecOn with
  | nil => exact ⟨_, .nil ofPath⟩
  | append_singleton own p ih =>
      rw [← List.append_assoc, List.forall_mem_append, List.forall_mem_singleton] at hknown
      obtain ⟨origins, h⟩ := ih hknown.1
      rw [List.foldl_concat]
      refine h.place (fun q hq => key_eq_iff (hknown.1 q ?_) hknown.2)
      obtain ⟨o, -, ho⟩ := h.exists_of_mem hq
      exact mem_of_find? ho

/-! ## The merged list -/

/-- How a list of parameters is put together from those of a path and of an operation, with
`origins` as the places where its parameters are declared. -/
structure IsMerge (ofPath own : List Parameter) (origins : List Origin)
    (merged : List Parameter) : Prop where
  /-- Each parameter is as it is declared, but one of the path is required in any case. -/
  declared : List.Forall₂ (fun o p => ∃ q, o.find? ofPath own = some q ∧
    p = { q with required := q.required || decide (q.location = .path) }) origins merged
  /-- What stays is there, and nothing else. -/
  mem_iff : ∀ o, o ∈ origins ↔ o.Stays ofPath own
  /-- No declaration is there twice. -/
  nodup : origins.Nodup
  required_of_path : ∀ p ∈ merged, p.location = .path → p.required = true
  required_first : merged.Pairwise (fun p q => q.required = true → p.required = true)
  /-- The required parameters are in the order of their slots, and so are the others. -/
  in_order : (origins.zip merged).Pairwise (fun a b => a.2.required = b.2.required →
    a.1.slot ofPath own < b.1.slot ofPath own)

theorem settle_eq (p : Parameter) :
    settle p = { p with required := p.required || decide (p.location = .path) } := by
  rw [settle]
  split
  case isTrue h => rw [decide_eq_true h, Bool.or_true]
  case isFalse h => rw [decide_eq_false h, Bool.or_false]

/-- Whether what is declared somewhere is required. -/
def Origin.isRequired (ofPath own : List Parameter) (o : Origin) : Bool :=
  (o.find? ofPath own).any (fun p => (settle p).required)

namespace InSlots

theorem forall₂_settle (h : InSlots ofPath own origins arranged) :
    List.Forall₂ (fun o p => ∃ q, o.find? ofPath own = some q ∧ p = settle q) origins
      (arranged.map settle) := by
  have hfound := List.forall₂_eq_eq_eq.symm ▸ h.declared
  rw [List.forall₂_map_left_iff, List.forall₂_map_right_iff] at hfound
  rw [List.forall₂_map_right_iff]
  exact hfound.imp (fun o p hp => ⟨p, hp, rfl⟩)

/-- The required parameters and the others, each with their origins in order. -/
theorem forall₂_filter (h : InSlots ofPath own origins arranged) (required : Bool) :
    List.Forall₂ (fun o p => ∃ q, o.find? ofPath own = some q ∧ p = settle q)
      (origins.filter (fun o => o.isRequired ofPath own == required))
      ((arranged.map settle).filter (fun p => p.required == required)) := by
  refine List.rel_filter ?_ h.forall₂_settle
  rintro o _ ⟨q, hq, rfl⟩
  simp [Origin.isRequired, hq]

/-- Slots ascend among the parameters that are required, and among the others. -/
theorem zip_filter_ascending (h : InSlots ofPath own origins arranged) (required : Bool) :
    ((origins.filter (fun o => o.isRequired ofPath own == required)).zip
      ((arranged.map settle).filter (fun p => p.required == required))).Pairwise
        (fun a b => a.1.slot ofPath own < b.1.slot ofPath own) := by
  rw [← List.pairwise_map (f := Prod.fst) (R := fun a b : Origin =>
    a.slot ofPath own < b.slot ofPath own),
    List.map_fst_zip (Nat.le_of_eq (h.forall₂_filter required).length_eq)]
  exact List.Pairwise.filter _ (List.pairwise_map.1 h.ascending)

/-- Parameters in their slots become the merged list once the required ones go to the front. -/
theorem isMerge (h : InSlots ofPath own origins arranged) :
    IsMerge ofPath own
      (origins.filter (fun o => o.isRequired ofPath own == true) ++
        origins.filter (fun o => o.isRequired ofPath own == false))
      (requiredFirst (arranged.map settle)) := by
  have hmerged : requiredFirst (arranged.map settle) =
      (arranged.map settle).filter (fun p => p.required == true) ++
        (arranged.map settle).filter (fun p => p.required == false) := by
    simp [requiredFirst]
  have hperm : (origins.filter (fun o => o.isRequired ofPath own == true) ++
      origins.filter (fun o => o.isRequired ofPath own == false)).Perm origins := by
    simpa using List.filter_append_perm (fun o => o.isRequired ofPath own) origins
  have hfirst : ∀ p ∈ (arranged.map settle).filter (fun p => p.required == true),
      p.required = true := fun p hp => eq_of_beq (List.mem_filter.1 hp).2
  have hothers : ∀ p ∈ (arranged.map settle).filter (fun p => p.required == false),
      p.required = false := fun p hp => eq_of_beq (List.mem_filter.1 hp).2
  rw [hmerged]
  refine { declared := ?_, mem_iff := ?_, nodup := ?_, required_of_path := ?_,
           required_first := ?_, in_order := ?_ }
  · refine (List.rel_append (h.forall₂_filter true) (h.forall₂_filter false)).imp ?_
    rintro o _ ⟨q, hq, rfl⟩
    exact ⟨q, hq, settle_eq q⟩
  · intro o
    rw [hperm.mem_iff, h.mem_iff]
  · exact hperm.nodup_iff.2 h.nodup
  · intro p hp hpath
    rw [← hmerged, requiredFirst, (List.filter_append_perm _ _).mem_iff] at hp
    obtain ⟨q, -, rfl⟩ := List.mem_map.1 hp
    rw [settle_eq] at hpath ⊢
    exact Bool.or_eq_true_iff.2 (.inr (decide_eq_true hpath))
  · refine List.pairwise_append.2 ⟨?_, ?_, ?_⟩
    · exact List.pairwise_of_forall_mem_list (fun p hp q _ _ => hfirst p hp)
    · refine List.pairwise_of_forall_mem_list (fun p _ q hq hrequired => ?_)
      rw [hothers q hq] at hrequired
      cases hrequired
    · exact fun p hp q _ _ => hfirst p hp
  · rw [List.zip_append (h.forall₂_filter true).length_eq]
    refine List.pairwise_append.2 ⟨?_, ?_, ?_⟩
    · refine (h.zip_filter_ascending true).imp (fun hlt => ?_)
      exact fun _ => hlt
    · refine (h.zip_filter_ascending false).imp (fun hlt => ?_)
      exact fun _ => hlt
    · intro a ha b hb hsame
      rw [hfirst _ (List.of_mem_zip ha).2, hothers _ (List.of_mem_zip hb).2] at hsame
      cases hsame

end InSlots

namespace IsMerge

variable {merged : List Parameter}

theorem map_wire (h : IsMerge ofPath own origins merged) :
    origins.map (fun o => (o.find? ofPath own).map wire) = merged.map (fun p => some p.wire) := by
  rw [← List.forall₂_eq_eq_eq, List.forall₂_map_left_iff, List.forall₂_map_right_iff]
  refine h.declared.imp ?_
  rintro o _ ⟨q, hq, rfl⟩
  rw [hq]
  rfl

/-- The merged list names the places that the lists name. -/
theorem mem_wire_iff (h : IsMerge ofPath own origins merged) (w : Location × String) :
    w ∈ merged.map wire ↔ w ∈ (ofPath ++ own).map wire := by
  have hsome : w ∈ merged.map wire ↔
      some w ∈ origins.map (fun o => (o.find? ofPath own).map wire) := by
    simp [h.map_wire]
  rw [hsome, List.mem_map]
  constructor
  · rintro ⟨o, -, hfound⟩
    obtain ⟨p, hp, rfl⟩ := Option.map_eq_some_iff.1 hfound
    exact List.mem_map_of_mem (mem_of_find? hp)
  · intro hw
    obtain ⟨q, hq, hwire⟩ := List.mem_map.1 hw
    obtain ⟨o, p, hstays, hp, rfl, -⟩ := exists_stays ⟨q, hq, hwire⟩
    exact ⟨o, (h.mem_iff o).2 hstays, by rw [hp]; rfl⟩

/-- Where a path names no place twice, its parameters stay only where the operation has none, and
the merged list names no place twice. -/
theorem distinct (h : IsMerge ofPath own origins merged) (hdistinct : (ofPath.map wire).Nodup) :
    (∀ i p, .ofPath i ∈ origins → ofPath[i]? = some p → ∀ q ∈ own, q.wire ≠ p.wire) ∧
      (merged.map wire).Nodup := by
  have hlast : ∀ i p, ofPath[i]? = some p → lastAt? p.wire ofPath = some i := by
    intro i p hp
    refine lastAt?_eq_some_iff.2 ⟨⟨p, hp, rfl⟩, fun q hq hwire => ?_⟩
    obtain ⟨hi, rfl⟩ := List.getElem?_eq_some_iff.1 hp
    rw [← List.take_append_drop i ofPath, List.drop_eq_getElem_cons hi, List.map_append,
      List.map_cons, List.nodup_append, List.nodup_cons] at hdistinct
    exact hdistinct.2.1.1 (hwire ▸ List.mem_map_of_mem hq)
  have hnone : ∀ i p, .ofPath i ∈ origins → ofPath[i]? = some p → ∀ q ∈ own, q.wire ≠ p.wire := by
    intro i p ho hp q hq hwire
    obtain ⟨r, hr, hlater⟩ := (h.mem_iff _).1 ho
    obtain rfl := Option.some.inj (hp.symm.trans hr)
    obtain ⟨s, hs, hsame⟩ := hlater ⟨q, hq, hwire⟩
    exact (lastAt?_eq_some_iff.1 (hlast i p hp)).2 s hs hsame
  refine ⟨hnone, ?_⟩
  have hplaces : (merged.map (fun p => some p.wire)).Nodup := by
    rw [← h.map_wire]
    refine h.nodup.map_on (fun a ha b hb heq => ?_)
    obtain ⟨p, hp⟩ := ((h.mem_iff a).1 ha).find?_eq_some
    obtain ⟨q, hq⟩ := ((h.mem_iff b).1 hb).find?_eq_some
    rw [hp, hq] at heq
    have hwire : p.wire = q.wire := Option.some.inj heq
    cases a with
    | ofPath i =>
        cases b with
        | ofPath j =>
            have hsame := (hlast i p hp).symm.trans (hwire ▸ hlast j q hq)
            exact congrArg Origin.ofPath (Option.some.inj hsame)
        | own j => exact absurd hwire.symm (hnone i p ha hp q (List.mem_of_getElem? hq))
    | own i =>
        cases b with
        | ofPath j => exact absurd hwire (hnone j q hb hq p (List.mem_of_getElem? hp))
        | own j =>
            have hi := ((h.mem_iff _).1 ha).lastAt? hp
            have hj := ((h.mem_iff _).1 hb).lastAt? hq
            rw [hwire, hj] at hi
            exact congrArg Origin.own (Option.some.inj hi).symm
  exact List.Nodup.of_map some (by rwa [List.map_map])

end IsMerge

/-- The merged list holds, of the parameters of the operation, the last at each place of a request,
and of those of the path all that none of these replaces. Required parameters come first, each
parameter of the path's location is required, and otherwise the slots decide the order. Where the
path names no place twice, each place that is named has one parameter, the operation's own if it has
one. -/
theorem merge_arranged (ofPath own : List Parameter)
    (hknown : ∀ p ∈ ofPath ++ own, p.location ∈ Location.known) :
    ∃ origins, IsMerge ofPath own origins (merge ofPath own) ∧
      (∀ w, w ∈ (merge ofPath own).map wire ↔ w ∈ (ofPath ++ own).map wire) ∧
      ((ofPath.map wire).Nodup →
        (∀ i p, .ofPath i ∈ origins → ofPath[i]? = some p → ∀ q ∈ own, q.wire ≠ p.wire) ∧
        ((merge ofPath own).map wire).Nodup) := by
  obtain ⟨origins, h⟩ := exists_inSlots hknown
  exact ⟨_, h.isMerge, h.isMerge.mem_wire_iff, h.isMerge.distinct⟩

/-- Parameters of a path, two of them at one place. -/
def pathFilters : List Parameter :=
  [{ name := "q", location := .query, description := "first" },
   { name := "id", location := .path, description := "key" },
   { name := "q", location := .query, description := "second" }]

/-- Parameters of an operation, two of them at a place that the path names. -/
def ownFilters : List Parameter :=
  [{ name := "q", location := .query, description := "third" },
   { name := "trace", location := .header, required := true, description := "span" },
   { name := "q", location := .query, description := "last" }]

/-- What `merge_arranged` says of `pathFilters` and `ownFilters`: the second and the third
parameter `q` go, and the last takes their slot. -/
theorem merge_arranged_filters :
    (∀ p ∈ pathFilters ++ ownFilters, p.location ∈ Location.known) ∧
      (merge pathFilters ownFilters).map Parameter.description =
        ["key", "span", "first", "last"] ∧
      ∃ origins, IsMerge pathFilters ownFilters origins (merge pathFilters ownFilters) := by
  refine ⟨by decide, by decide, ?_⟩
  obtain ⟨origins, h, -, -⟩ := merge_arranged pathFilters ownFilters (by decide)
  exact ⟨origins, h⟩

end Parameter

end TypedClient
