import Cityscape.TileSet
import Mathlib.Data.List.Dedup
import Mathlib.Data.List.Induction
import Mathlib.Data.List.Nodup
import Mathlib.Data.List.Sort
import Mathlib.Data.String.Basic
import Mathlib.Tactic.Lemma

/-!
# Tile sets as maps

Tiles are put into a set one after another (`ofEntries`). The set that comes out of it is the map that
takes each name to the last entry of this name, in the order of the names (`Collects`), and it is the
only one (`Collects.eq_ofEntries`), since a set in order is known by its tiles (`Ascending.ext`). Where
no name occurs twice, the order of the entries does not matter (`ofEntries_perm`).
-/

namespace Cityscape

/-- Among different keys, what is found under a key is what is listed with it. -/
lemma lookup_eq_some_iff {α : Type} {l : List (String × α)} (distinct : (l.map (·.1)).Nodup)
    {key : String} {a : α} : (l.find? (·.1 == key)).map (·.2) = some a ↔ (key, a) ∈ l := by
  rw [Option.map_eq_some_iff]
  constructor
  · rintro ⟨⟨other, _⟩, found, rfl⟩
    obtain rfl : other = key := by simpa using List.find?_some found
    exact List.mem_of_find?_eq_some found
  · intro mem
    have isSome : (l.find? (·.1 == key)).isSome :=
      List.find?_isSome.2 ⟨(key, a), mem, beq_self_eq_true key⟩
    obtain ⟨other, found⟩ := Option.isSome_iff_exists.1 isSome
    have same : other.1 = key := by simpa using List.find?_some found
    have : other = (key, a) :=
      List.inj_on_of_nodup_map distinct (List.mem_of_find?_eq_some found) mem same
    exact ⟨other, found, congrArg Prod.snd this⟩

namespace TileSet

variable {set set' : TileSet} {name : String} {image : TileImage}
  {entries l l' : List (String × TileImage)}

/-- The set of entries that are put in one after another. -/
def ofEntries (l : List (String × TileImage)) : TileSet :=
  l.foldl (fun set entry => set.insert entry.1 entry.2) .empty

/-- The image of the last entry with a name. -/
def lastNamed (l : List (String × TileImage)) (name : String) : Option TileImage :=
  (l.reverse.find? (·.1 == name)).map (·.2)

/-- The names of a set are strictly increasing. -/
def Ascending (set : TileSet) : Prop := set.entries.Pairwise fun e f => e.1 < f.1

/-- A set is the map of entries: the last one of each name, in the order of the names. -/
structure Collects (set : TileSet) (l : List (String × TileImage)) : Prop where
  get? : ∀ name, set.get? name = lastNamed l name
  size : set.size = (l.map (·.1)).dedup.length
  ascending : set.Ascending

/-! ## The order of names -/

/-- An entry behind an insertion is the new one or was there before. -/
lemma mem_insertEntry {e : String × TileImage} (h : e ∈ insertEntry name image entries) :
    e = (name, image) ∨ e ∈ entries := by
  induction entries with
  | nil => exact .inl (List.mem_singleton.1 h)
  | cons first rest ih =>
    obtain ⟨other, found⟩ := first
    rw [insertEntry] at h
    split at h
    · exact List.mem_cons.1 h
    · split at h
      · exact (List.mem_cons.1 h).imp_right (List.mem_cons_of_mem _)
      · rcases List.mem_cons.1 h with rfl | h
        · exact .inr List.mem_cons_self
        · exact (ih h).imp_right (List.mem_cons_of_mem _)

/-- An insertion keeps the names in ascending order. -/
lemma Ascending.insert (h : set.Ascending) (name : String) (image : TileImage) :
    (set.insert name image).Ascending := by
  obtain ⟨entries⟩ := set
  show (insertEntry name image entries).Pairwise _
  induction entries with
  | nil => exact List.pairwise_singleton _ _
  | cons first rest ih =>
    obtain ⟨other, found⟩ := first
    obtain ⟨above, ordered⟩ := List.pairwise_cons.1 h
    rw [insertEntry]
    split
    case isTrue below =>
      refine List.pairwise_cons.2 ⟨fun e he => ?_, h⟩
      rcases List.mem_cons.1 he with rfl | he
      · exact below
      · exact below.trans (above e he)
    case isFalse notBelow =>
      split
      case isTrue same => exact List.pairwise_cons.2 ⟨same ▸ above, ordered⟩
      case isFalse differ =>
        have below : other < name := lt_of_le_of_ne (not_lt.1 notBelow) (Ne.symm differ)
        refine List.pairwise_cons.2 ⟨fun e he => ?_, ih ordered⟩
        rcases mem_insertEntry he with rfl | he
        · exact below
        · exact above e he

/-- A set in order has no name twice. -/
lemma Ascending.nodup (h : set.Ascending) : (set.entries.map (·.1)).Nodup :=
  (List.pairwise_map.2 h).imp ne_of_lt

/-- In a set in order, the image that is looked up under a name is that of the entry. -/
lemma Ascending.mem_iff (h : set.Ascending) :
    (name, image) ∈ set.entries ↔ set.get? name = some image := (lookup_eq_some_iff h.nodup).symm

/-- Two sets in order that have the same tiles are one set. -/
lemma Ascending.ext (h : set.Ascending) (h' : set'.Ascending)
    (same : ∀ name, set.get? name = set'.get? name) : set = set' := by
  have irrefl : Std.Irrefl fun e f : String × TileImage => e.1 < f.1 := ⟨fun e => lt_irrefl e.1⟩
  have entries : set.entries = set'.entries := by
    apply List.Pairwise.eq_of_mem_iff h h'
    intro ⟨name, image⟩
    rw [h.mem_iff, h'.mem_iff, same]
  cases set
  cases set'
  exact congrArg TileSet.mk entries

/-! ## Sets of entries -/

/-- A further entry is inserted behind the others. -/
lemma ofEntries_concat (l : List (String × TileImage)) (entry : String × TileImage) :
    ofEntries (l ++ [entry]) = (ofEntries l).insert entry.1 entry.2 := by
  rw [ofEntries, List.foldl_concat]
  rfl

/-- A set of entries is in ascending order. -/
lemma ascending_ofEntries (l : List (String × TileImage)) : (ofEntries l).Ascending := by
  induction l using List.reverseRecOn with
  | nil => exact List.Pairwise.nil
  | append_singleton l entry ih =>
    rw [ofEntries_concat]
    exact ih.insert entry.1 entry.2

/-- In a set of entries, each name has the last image that was given to it. -/
lemma get?_ofEntries (l : List (String × TileImage)) (name : String) :
    (ofEntries l).get? name = lastNamed l name := by
  induction l using List.reverseRecOn with
  | nil => rfl
  | append_singleton l entry ih =>
    rw [ofEntries_concat, get?_insert, ih, lastNamed, lastNamed, List.reverse_concat,
      List.find?_cons]
    by_cases same : entry.1 = name
    · rw [if_pos same, beq_iff_eq.2 same]
      rfl
    · rw [if_neg same, beq_false_of_ne same]

/-- A name has a last image if there is an entry with that name. -/
lemma lastNamed_isSome_iff : (lastNamed l name).isSome ↔ name ∈ l.map (·.1) := by
  rw [lastNamed, Option.isSome_map, List.find?_isSome, List.mem_map]
  simp only [List.mem_reverse, beq_iff_eq]

/-- There are as many tiles in a set as names among its entries. -/
lemma size_ofEntries (l : List (String × TileImage)) :
    (ofEntries l).size = (l.map (·.1)).dedup.length := by
  have ascending := ascending_ofEntries l
  have names : ((ofEntries l).entries.map (·.1)).Perm (l.map (·.1)).dedup := by
    apply (List.perm_ext_iff_of_nodup ascending.nodup (List.nodup_dedup _)).2
    intro name
    rw [List.mem_dedup, ← lastNamed_isSome_iff (l := l), ← get?_ofEntries, get?, Option.isSome_map,
      List.find?_isSome, List.mem_map]
    simp only [beq_iff_eq]
  rw [size, ← names.length_eq, List.length_map]

/-- The set of entries collects them. -/
lemma collects_ofEntries (l : List (String × TileImage)) : (ofEntries l).Collects l where
  get? := get?_ofEntries l
  size := size_ofEntries l
  ascending := ascending_ofEntries l

/-- A set that collects entries is the set of those entries. -/
lemma Collects.eq_ofEntries (h : set.Collects l) : set = ofEntries l := by
  apply h.ascending.ext (ascending_ofEntries l)
  intro name
  rw [h.get?, get?_ofEntries]

/-- Where no name occurs twice, each entry is the last one of its name. -/
lemma lastNamed_eq_some_iff (distinct : (l.map (·.1)).Nodup) :
    lastNamed l name = some image ↔ (name, image) ∈ l := by
  have distinct : (l.reverse.map (·.1)).Nodup := by
    rw [List.map_reverse]
    exact List.nodup_reverse.2 distinct
  rw [lastNamed, lookup_eq_some_iff distinct, List.mem_reverse]

/-- The order of entries with different names does not matter. -/
lemma ofEntries_perm (distinct : (l.map (·.1)).Nodup) (perm : l.Perm l') :
    ofEntries l' = ofEntries l := by
  apply (ascending_ofEntries l').ext (ascending_ofEntries l)
  intro name
  have distinct' : (l'.map (·.1)).Nodup := (perm.map _).nodup_iff.1 distinct
  ext image
  rw [get?_ofEntries, get?_ofEntries, lastNamed_eq_some_iff distinct',
    lastNamed_eq_some_iff distinct, perm.mem_iff]

end TileSet

end Cityscape
