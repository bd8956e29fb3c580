import Mathlib.Data.List.Basic
import Mathlib.Logic.Function.Basic

/-!
# Hash tables of chains

A table is one chain of entries for every bucket. Entries are linked at the head of a chain and
unlinked wherever they are, and a lookup takes the first entry of the right chain that has the key.
The table does not hold the keys: they are read from the entries, and `Placed` says that every entry
is in the bucket of its key. A lookup then finds nothing exactly if no linked entry has the key
(`lookup_eq_none_iff`), and finds the only entry that has it (`lookup_of_unique`).

`Holds` says more: which entries there are in a table, and that each of them is there once.
-/

set_option autoImplicit false
set_option relaxedAutoImplicit false

namespace KernelModules.Foundations

namespace Chains

variable {β κ ι : Type*} [DecidableEq β] [DecidableEq κ] [DecidableEq ι]

/-- Link an entry at the head of a chain. -/
def link (table : β → List ι) (bucket : β) (entry : ι) : β → List ι :=
  Function.update table bucket (entry :: table bucket)

/-- Unlink an entry. -/
def unlink (table : β → List ι) (entry : ι) : β → List ι :=
  fun bucket ↦ (table bucket).filter (· ≠ entry)

/-- The first entry with the key. -/
def lookup (hash : κ → β) (key : ι → Option κ) (table : β → List ι) (k : κ) : Option ι :=
  (table (hash k)).find? fun entry ↦ key entry = some k

/-- The entry is in some chain. -/
def Linked (table : β → List ι) (entry : ι) : Prop := ∃ bucket, entry ∈ table bucket

/-- Every linked entry has a key, and is in the bucket of its key. -/
def Placed (hash : κ → β) (key : ι → Option κ) (table : β → List ι) : Prop :=
  ∀ bucket, ∀ entry ∈ table bucket, ∃ k, key entry = some k ∧ hash k = bucket

variable {hash : κ → β} {key key' : ι → Option κ} {table : β → List ι} {bucket : β}
  {entry other : ι} {k : κ}

omit [DecidableEq ι] in
/-- Linking an entry changes the table. -/
theorem link_ne : link table bucket entry ≠ table := by
  intro hsame
  have hchain := congrFun hsame bucket
  rw [link, Function.update_self] at hchain
  exact List.cons_ne_self entry (table bucket) hchain

omit [DecidableEq ι] in
theorem linked_link :
    Linked (link table bucket entry) other ↔ other = entry ∨ Linked table other := by
  constructor
  · rintro ⟨b, hmem⟩
    by_cases hb : b = bucket
    · subst hb
      rw [link, Function.update_self] at hmem
      exact (List.mem_cons.mp hmem).imp_right fun hold ↦ ⟨b, hold⟩
    · rw [link, Function.update_of_ne hb] at hmem
      exact Or.inr ⟨b, hmem⟩
  · rintro (rfl | ⟨b, hmem⟩)
    · exact ⟨bucket, by simp [link]⟩
    · by_cases hb : b = bucket
      · subst hb
        exact ⟨b, by simp [link, hmem]⟩
      · exact ⟨b, by rwa [link, Function.update_of_ne hb]⟩

omit [DecidableEq β] in
theorem linked_unlink : Linked (unlink table entry) other ↔ other ≠ entry ∧ Linked table other := by
  simp only [Linked, unlink, List.mem_filter, decide_eq_true_eq]
  exact ⟨fun ⟨b, hmem, hne⟩ ↦ ⟨hne, b, hmem⟩, fun ⟨hne, b, hmem⟩ ↦ ⟨b, hmem, hne⟩⟩

omit [DecidableEq β] in
/-- Unlinking twice is unlinking once. -/
theorem unlink_unlink : unlink (unlink table entry) entry = unlink table entry := by
  funext b
  simp only [unlink, List.filter_filter, Bool.and_self]

omit [DecidableEq β] [DecidableEq κ] [DecidableEq ι] in
theorem Placed.key_congr (hplaced : Placed hash key table)
    (hkey : ∀ entry, Linked table entry → key' entry = key entry) : Placed hash key' table := by
  intro b entry hmem
  rw [hkey entry ⟨b, hmem⟩]
  exact hplaced b entry hmem

omit [DecidableEq κ] [DecidableEq ι] in
theorem Placed.link (hplaced : Placed hash key table) (hkey : key entry = some k) :
    Placed hash key (link table (hash k) entry) := by
  intro b other hmem
  by_cases hb : b = hash k
  · subst hb
    rw [Chains.link, Function.update_self] at hmem
    rcases List.mem_cons.mp hmem with rfl | hold
    · exact ⟨k, hkey, rfl⟩
    · exact hplaced _ other hold
  · rw [Chains.link, Function.update_of_ne hb] at hmem
    exact hplaced b other hmem

omit [DecidableEq β] [DecidableEq κ] in
theorem Placed.unlink (hplaced : Placed hash key table) (entry : ι) :
    Placed hash key (unlink table entry) :=
  fun b other hmem ↦ hplaced b other (List.mem_of_mem_filter hmem)

omit [DecidableEq β] [DecidableEq ι] in
theorem of_lookup_eq_some (hlookup : lookup hash key table k = some entry) :
    Linked table entry ∧ key entry = some k :=
  ⟨⟨hash k, List.mem_of_find?_eq_some hlookup⟩, by simpa using List.find?_some hlookup⟩

omit [DecidableEq β] [DecidableEq ι] in
/-- A lookup finds nothing exactly if no linked entry has the key. -/
theorem lookup_eq_none_iff (hplaced : Placed hash key table) :
    lookup hash key table k = none ↔ ∀ entry, Linked table entry → key entry ≠ some k := by
  rw [lookup, List.find?_eq_none]
  constructor
  · rintro hnone entry ⟨b, hmem⟩ hkey
    obtain ⟨k', hkey', rfl⟩ := hplaced b entry hmem
    obtain rfl := Option.some.inj (hkey.symm.trans hkey')
    exact hnone entry hmem (by simpa using hkey)
  · intro hnone entry hmem hkey
    exact hnone entry ⟨_, hmem⟩ (by simpa using hkey)

omit [DecidableEq β] [DecidableEq ι] in
/-- A lookup finds the only entry that has the key. -/
theorem lookup_of_unique (hplaced : Placed hash key table) (hlinked : Linked table entry)
    (hkey : key entry = some k)
    (hunique : ∀ other, Linked table other → key other = some k → other = entry) :
    lookup hash key table k = some entry := by
  cases hlookup : lookup hash key table k with
  | none => exact absurd hkey ((lookup_eq_none_iff hplaced).mp hlookup entry hlinked)
  | some found =>
    obtain ⟨hfound, hkey'⟩ := of_lookup_eq_some hlookup
    rw [hunique found hfound hkey']

/-! ### Exact contents -/

/-- The table holds exactly the members, each once and in the bucket of its key. -/
def Holds (hash : κ → β) (member : ι → Option κ) (table : β → List ι) : Prop :=
  ∀ bucket entry, (table bucket).count entry =
    if (member entry).map hash = some bucket then 1 else 0

namespace Holds

variable {member member' : ι → Option κ}

omit [DecidableEq κ] in
theorem empty (hmember : ∀ entry, member entry = none) : Holds hash member fun _ ↦ [] := by
  intro b e
  rw [hmember, List.count_nil]
  rfl

omit [DecidableEq κ] in
theorem congr (hholds : Holds hash member table) (hmember : ∀ entry, member' entry = member entry) :
    Holds hash member' table := by
  intro b e
  rw [hmember]
  exact hholds b e

omit [DecidableEq κ] in
/-- A new member is linked. -/
theorem link (hholds : Holds hash member table) (hnew : member entry = none)
    (hentry : member' entry = some k)
    (hother : ∀ other, other ≠ entry → member' other = member other) :
    Holds hash member' (link table (hash k) entry) := by
  intro b e
  have hbefore := hholds b e
  by_cases hb : b = hash k
  · subst hb
    rw [Chains.link, Function.update_self]
    by_cases he : e = entry
    · subst he
      rw [hnew] at hbefore
      rw [List.count_cons_self, hbefore, hentry]
      simp
    · rw [List.count_cons_of_ne (Ne.symm he), hbefore, hother e he]
  · rw [Chains.link, Function.update_of_ne hb, hbefore]
    by_cases he : e = entry
    · subst he
      rw [hnew, hentry]
      simp [Ne.symm hb]
    · rw [hother e he]

omit [DecidableEq κ] in
/-- A member is unlinked, or something that is no member. -/
theorem unlink (hholds : Holds hash member table) (hentry : member' entry = none)
    (hother : ∀ other, other ≠ entry → member' other = member other) :
    Holds hash member' (unlink table entry) := by
  intro b e
  unfold Chains.unlink
  by_cases he : e = entry
  · subst he
    rw [hentry, List.count_eq_zero_of_not_mem (by simp)]
    rfl
  · rw [List.count_filter (by simpa using he), hother e he]
    exact hholds b e

omit [DecidableEq κ] in
theorem mem_iff (hholds : Holds hash member table) :
    entry ∈ table bucket ↔ (member entry).map hash = some bucket := by
  rw [← List.count_pos_iff, hholds bucket entry]
  split_ifs with hbucket
  · simp [hbucket]
  · simp [hbucket]

omit [DecidableEq κ] in
theorem linked_iff (hholds : Holds hash member table) :
    Linked table entry ↔ (member entry).isSome = true := by
  constructor
  · rintro ⟨b, hmem⟩
    obtain ⟨k, hk, -⟩ := Option.map_eq_some_iff.mp (hholds.mem_iff.mp hmem)
    rw [hk]
    rfl
  · intro hsome
    obtain ⟨k, hk⟩ := Option.isSome_iff_exists.mp hsome
    exact ⟨hash k, hholds.mem_iff.mpr (by rw [hk]; rfl)⟩

/-- A lookup finds the member with the key, if no two members share one. -/
theorem lookup_eq_some_iff (hholds : Holds hash member table)
    (hkey : ∀ entry k, member entry = some k → key entry = some k)
    (hunique : ∀ entry other k, member entry = some k → member other = some k → entry = other) :
    lookup hash key table k = some entry ↔ member entry = some k := by
  have hmember : ∀ {e k}, Linked table e → key e = some k → member e = some k := by
    intro e k hlinked hk
    obtain ⟨k', hk'⟩ := Option.isSome_iff_exists.mp (hholds.linked_iff.mp hlinked)
    rw [hkey e k' hk', Option.some.injEq] at hk
    rw [hk', hk]
  constructor
  · intro hlookup
    obtain ⟨hlinked, hk⟩ := of_lookup_eq_some hlookup
    exact hmember hlinked hk
  · intro hk
    have hplaced : Placed hash key table := by
      intro b e hmem
      obtain ⟨k', hk', hb⟩ := Option.map_eq_some_iff.mp (hholds.mem_iff.mp hmem)
      exact ⟨k', hkey e k' hk', hb⟩
    refine lookup_of_unique hplaced (hholds.linked_iff.mpr (by rw [hk]; rfl)) (hkey entry k hk) ?_
    intro other hlinked hother
    exact hunique other entry k (hmember hlinked hother) hk

end Holds

end Chains

end KernelModules.Foundations
