import AlertConsole.Proofs.Json.Equality
set_option autoImplicit false

/-!
# The order of members

Two trees may differ in nothing but the order of the members of the objects in them, at any depth
(`Reorders`).  Then one is accepted if the other is, and if no key is repeated they stand for equal
values (`Reorders.alike`).
-/

namespace AlertConsole.Json

/-! ## Trees in another order -/

/-- Two trees are the same but for the order of the members of the objects in them. -/
inductive Reorders : Tree → Tree → Prop where
  | null : Reorders .null .null
  | bool (b : Bool) : Reorders (.bool b) (.bool b)
  | number (l : Literal) : Reorders (.number l) (.number l)
  | string (s : String) : Reorders (.string s) (.string s)
  | array {ts us : List Tree} : List.Forall₂ Reorders ts us → Reorders (.array ts) (.array us)
  | object {ms ns ns' : List (String × Tree)} : ms.map Prod.fst = ns.map Prod.fst →
      List.Forall₂ Reorders (ms.map Prod.snd) (ns.map Prod.snd) → ns.Perm ns' →
      Reorders (.object ms) (.object ns')

theorem forall₂_keyed_iff {α β : Type} {R : α → β → Prop} {ms : List (String × α)}
    {ns : List (String × β)} :
    List.Forall₂ (Keyed R) ms ns ↔
      ms.map Prod.fst = ns.map Prod.fst ∧ List.Forall₂ R (ms.map Prod.snd) (ns.map Prod.snd) := by
  induction ms generalizing ns with
  | nil => cases ns <;> simp
  | cons m ms ih =>
    cases ns with
    | nil => simp
    | cons n ns =>
      simp only [List.forall₂_cons, List.map_cons, List.cons.injEq, ih, Keyed]
      exact and_and_and_comm

theorem reorders_array_iff {ts : List Tree} {u : Tree} :
    Reorders (.array ts) u ↔ ∃ us, u = .array us ∧ List.Forall₂ Reorders ts us := by
  constructor
  · rintro (_ | _ | _ | _ | h)
    exact ⟨_, rfl, h⟩
  · rintro ⟨us, rfl, h⟩
    exact .array h

theorem reorders_object_iff {ms : List (String × Tree)} {u : Tree} :
    Reorders (.object ms) u ↔
      ∃ ns ns', u = .object ns' ∧ List.Forall₂ (Keyed Reorders) ms ns ∧ ns.Perm ns' := by
  constructor
  · rintro (_ | _ | _ | _ | _ | ⟨hkeys, hvalues, hperm⟩)
    exact ⟨_, _, rfl, forall₂_keyed_iff.mpr ⟨hkeys, hvalues⟩, hperm⟩
  · rintro ⟨ns, ns', rfl, h, hperm⟩
    obtain ⟨hkeys, hvalues⟩ := forall₂_keyed_iff.mp h
    exact .object hkeys hvalues hperm

/-- No key is repeated in an object. -/
inductive Tree.DistinctKeys : Tree → Prop where
  | null : DistinctKeys .null
  | bool (b : Bool) : DistinctKeys (.bool b)
  | number (l : Literal) : DistinctKeys (.number l)
  | string (s : String) : DistinctKeys (.string s)
  | array {ts : List Tree} : (∀ t ∈ ts, DistinctKeys t) → DistinctKeys (.array ts)
  | object {ms : List (String × Tree)} : (ms.map Prod.fst).Nodup → (∀ m ∈ ms, DistinctKeys m.2) →
      DistinctKeys (.object ms)

theorem distinctKeys_array_iff {ts : List Tree} :
    (Tree.array ts).DistinctKeys ↔ ∀ t ∈ ts, t.DistinctKeys := by
  constructor
  · rintro (_ | _ | _ | _ | h | _)
    exact h
  · exact .array

theorem distinctKeys_object_iff {ms : List (String × Tree)} :
    (Tree.object ms).DistinctKeys ↔
      (ms.map Prod.fst).Nodup ∧ ∀ m ∈ ms, m.2.DistinctKeys := by
  constructor
  · rintro (_ | _ | _ | _ | _ | ⟨hkeys, hms⟩)
    exact ⟨hkeys, hms⟩
  · exact fun h => .object h.1 h.2

/-! ## Acceptance -/

/-- A tree is nested as deep as given at most, and its literals are in range. -/
def Tree.Within (depth : Nat) (t : Tree) : Prop := t.depth ≤ depth ∧ t.InRange

theorem within_array_iff {d : Nat} {ts : List Tree} :
    (Tree.array ts).Within (d + 1) ↔ ∀ t ∈ ts, t.Within d := by
  rw [Tree.Within, Tree.depth, Nat.add_le_add_iff_right, itemsDepth_le_iff, Tree.InRange,
    Tree.literals, itemsLiterals_inRange_iff]
  exact forall₂_and.symm

theorem within_object_iff {d : Nat} {ms : List (String × Tree)} :
    (Tree.object ms).Within (d + 1) ↔ ∀ m ∈ ms, m.2.Within d := by
  rw [Tree.Within, Tree.depth, Nat.add_le_add_iff_right, membersDepth_le_iff, Tree.InRange,
    Tree.literals, membersLiterals_inRange_iff]
  exact forall₂_and.symm

theorem forall_iff_of_forall₂ {α β : Type} {R : α → β → Prop} {p : α → Prop} {q : β → Prop}
    {xs : List α} {ys : List β} (h : List.Forall₂ R xs ys)
    (hpq : ∀ x ∈ xs, ∀ y, R x y → (p x ↔ q y)) : (∀ x ∈ xs, p x) ↔ ∀ y ∈ ys, q y := by
  induction h with
  | nil => simp
  | cons hxy _ ih =>
    obtain ⟨hhead, htail⟩ := List.forall_mem_cons.mp hpq
    rw [List.forall_mem_cons, List.forall_mem_cons]
    exact and_congr (hhead _ hxy) (ih htail)

theorem Reorders.within_iff {t u : Tree} (h : Reorders t u) (d : Nat) :
    t.Within d ↔ u.Within d := by
  induction t using Tree.inductionOn generalizing u d with
  | null => cases h; exact Iff.rfl
  | bool b => cases h; exact Iff.rfl
  | number l => cases h; exact Iff.rfl
  | string s => cases h; exact Iff.rfl
  | array ts ih =>
    obtain ⟨us, rfl, hus⟩ := reorders_array_iff.mp h
    cases d with
    | zero => simp [Tree.Within, Tree.depth]
    | succ d =>
      rw [within_array_iff, within_array_iff]
      exact forall_iff_of_forall₂ hus fun t ht u htu => ih t ht htu d
  | object ms ih =>
    obtain ⟨ns, ns', rfl, hns, hperm⟩ := reorders_object_iff.mp h
    cases d with
    | zero => simp [Tree.Within, Tree.depth]
    | succ d =>
      rw [within_object_iff, within_object_iff]
      have hmembers : (∀ m ∈ ms, m.2.Within d) ↔ ∀ n ∈ ns, n.2.Within d :=
        forall_iff_of_forall₂ hns fun m hm n hmn => ih m hm hmn.2 d
      exact hmembers.trans (forall_congr' fun n => imp_congr hperm.mem_iff Iff.rfl)

/-! ## Values -/

/-- Trees that differ in the order of members only stand for equal values. -/
theorem Reorders.alike {t u : Tree} (h : Reorders t u) (ht : t.DistinctKeys) {v w : Value}
    (hv : t.StandsFor v) (hw : u.StandsFor w) : v.Alike w := by
  induction t using Tree.inductionOn generalizing u v w with
  | null =>
    cases h
    obtain rfl := Option.some.inj hv
    exact Value.alike_null_iff.mpr (Option.some.inj hw).symm
  | bool b =>
    cases h
    obtain rfl := Option.some.inj hv
    exact Value.alike_bool_iff.mpr (Option.some.inj hw).symm
  | number l =>
    cases h
    obtain ⟨m, rfl, hm⟩ := standsFor_number_iff.mp hv
    obtain ⟨n, rfl, hn⟩ := standsFor_number_iff.mp hw
    obtain rfl := Except.ok.inj (hm.symm.trans hn)
    exact (Value.DistinctKeys.number m).alike_refl
  | string s =>
    cases h
    obtain rfl := Option.some.inj hv
    exact Value.alike_string_iff.mpr (Option.some.inj hw).symm
  | array ts ih =>
    obtain ⟨us, rfl, hus⟩ := reorders_array_iff.mp h
    obtain ⟨vs, rfl, hvs⟩ := standsFor_array_iff.mp hv
    obtain ⟨ws, rfl, hws⟩ := standsFor_array_iff.mp hw
    have hts := distinctKeys_array_iff.mp ht
    have hcommon : List.Forall₂ (fun u v => ∃ t ∈ ts, Reorders t u ∧ t.StandsFor v) us vs :=
      forall₂_of_common hus hvs fun t ht u _ v _ hu hv => ⟨t, ht, hu, hv⟩
    refine Value.alike_array_iff.mpr ⟨ws, rfl, forall₂_of_common hcommon hws ?_⟩
    rintro u - v - w - ⟨t, hmem, hu, hv⟩ hw
    exact ih t hmem hu (hts t hmem) hv hw
  | object ms ih =>
    obtain ⟨ns, ns', rfl, hns, hperm⟩ := reorders_object_iff.mp h
    obtain ⟨vs, rfl, hvs⟩ := standsFor_object_iff.mp hv
    obtain ⟨ws, rfl, hws⟩ := standsFor_object_iff.mp hw
    obtain ⟨hkeys, hms⟩ := distinctKeys_object_iff.mp ht
    -- the values of the second object, in the order of the first
    obtain ⟨us, hus, hperm'⟩ := List.perm_comp_forall₂ hperm hws
    have hcommon : List.Forall₂
        (fun n v => ∃ m ∈ ms, Keyed Reorders m n ∧ Keyed Tree.StandsFor m v) ns vs :=
      forall₂_of_common hns hvs fun m hm n _ v _ hn hv => ⟨m, hm, hn, hv⟩
    have halike : List.Forall₂ (Keyed Value.Alike) vs us := by
      refine forall₂_of_common hcommon hus ?_
      rintro n - v - u - ⟨m, hm, ⟨hkey, hmn⟩, hkey', hmv⟩ ⟨hkey'', hnu⟩
      exact ⟨hkey'.symm.trans (hkey.trans hkey''), ih m hm hmn (hms m hm) hmv hnu⟩
    have hnodup : (Members.keys vs).Nodup := by
      rw [Members.keys, ← (forall₂_keyed_iff.mp hvs).1]
      exact hkeys
    have hnodup' : (Members.keys ws).Nodup := by
      refine (hperm'.map Prod.fst).nodup_iff.mp ?_
      rw [← (forall₂_keyed_iff.mp halike).1]
      exact hnodup
    rw [Members.ofList_of_nodup hnodup, Members.ofList_of_nodup hnodup']
    exact Value.alike_object_iff.mpr ⟨ws, rfl, Members.same_of_perm halike hperm' hnodup'⟩

end AlertConsole.Json
