import Cityscape.Proofs.Markup.Reading
import Cityscape.Proofs.Markup.Truncation
import Cityscape.Proofs.TileSet

/-!
# Documents of tiles

A document of tiles is read as the map of its entries. `Entries` says what the entries are among the
nodes that stand in the root element: an element named `tile` is one if it has a name and holds an
image, and all other nodes count for nothing. It is a condition at the same time, since there are no
entries where a tile has no name or no image.

The main statement, `readTileSet_collects`, is a characterization: a document is read as a set if and
only if its root element is closed (`Document`), the nodes in it have entries, and the set is the map
of these. One direction is that nodes are read as what they mean. The other one is
`Position.read_levels`: what can be read behind the tag of the root consists of nodes up to the end of
the root.
-/

namespace Cityscape.Markup

/-! ## Nodes behind open elements -/

/-- The tokens that close the elements which are open, the innermost one first, behind what is left of
their content. -/
def closing (levels : List (List Node)) : List Token :=
  levels.flatMap fun content => Node.tokensOf content ++ [.close]

/-- One token more in front: it belongs to the innermost element, or opens or closes one. -/
lemma closing_cons {token : Token} {n : Nat} (inside : 0 < n) (good : ∀ fault, token ≠ .malformed fault)
    {levels : List (List Node)} (length : levels.length = token.openBehind n) :
    ∃ levels', levels'.length = n ∧ closing levels' = token :: closing levels := by
  -- One element at least is open, so there is an innermost one.
  have innermost {outer : List (List Node)} (length : outer.length = n) :
      ∃ level outer', outer = level :: outer' :=
    List.exists_cons_of_length_pos (length.symm ▸ inside)
  cases token with
  | text content =>
    obtain ⟨level, outer, rfl⟩ := innermost length
    exact ⟨(.text content :: level) :: outer, length, rfl⟩
  | start el =>
    obtain ⟨name, attributes, empty⟩ := el
    cases empty with
    | true =>
      obtain ⟨level, outer, rfl⟩ := innermost length
      exact ⟨(.element name attributes none :: level) :: outer, length, rfl⟩
    | false =>
      -- The element that is opened here is the innermost one behind its tag.
      obtain ⟨content, others, rfl⟩ := List.exists_cons_of_length_eq_add_one length
      have length : others.length = n := Nat.succ.inj length
      obtain ⟨level, outer, rfl⟩ := innermost length
      refine ⟨(.element name attributes (some content) :: level) :: outer, length, ?_⟩
      simp only [closing, List.flatMap_cons, Node.tokensOf, Node.tokens, Node.tokensBehind,
        List.cons_append, List.append_assoc, List.nil_append, Option.isNone_some]
  | close =>
    refine ⟨[] :: levels, ?_, rfl⟩
    rw [List.length_cons, length, Token.openBehind]
    exact Nat.sub_add_cancel inside
  | malformed fault => exact absurd rfl (good fault)

section
variable {g : Goal} {resolver : Resolver}

/-- What can be read consists of nodes, up to the ends of all elements that are open. -/
lemma Position.read_levels (p : Position g) {document : List Token} {r : g.Result × List Token}
    (found : p.read resolver document = .ok r) :
    ∃ levels rest, levels.length = p.depth ∧ document = closing levels ++ rest := by
  induction document generalizing p with
  | nil => cases found
  | cons token behind ih =>
    rcases Nat.eq_zero_or_pos p.depth with outside | inside
    · exact ⟨[], token :: behind, outside.symm, rfl⟩
    have step := @Position.depth_step _ resolver p token
    rw [Position.read] at found
    cases e : p.step resolver token with
    | error =>
      rw [e] at found
      cases found
    | ok progress =>
      have depth := step.of_ok e
      have good : ∀ fault, token ≠ .malformed fault := by
        rintro fault rfl
        cases e
      have split : ∃ levels rest, levels.length = progress.depth ∧ behind = closing levels ++ rest := by
        rw [e] at found
        cases progress with
        | done => exact ⟨[], behind, rfl, rfl⟩
        | reading next => exact ih next found
      obtain ⟨levels, rest, length, rfl⟩ := split
      obtain ⟨levels', length', closed⟩ := closing_cons inside good (length.trans depth)
      exact ⟨levels', rest, length', by rw [closed]; rfl⟩

end

/-! ## Entries -/

section
variable {resolver : Resolver}

/-- What a node adds to the entries of a set. A tile needs a name and an image. -/
inductive Node.Enters (resolver : Resolver) : Node → List (String × TileImage) → Prop where
  | tile {attributes : List Attribute} {content : Option (List Node)} {name : String}
      {image : TileImage} :
    Element.value? ⟨"tile", attributes, content.isNone⟩ "name" = some name →
    heldImage "tile" (meaningsIn resolver content) = .ok image →
    Enters resolver (.element "tile" attributes content) [(name, image)]
  | other {name : String} {attributes : List Attribute} {content : Option (List Node)} :
    name ≠ "tile" →
    Enters resolver (.element name attributes content) []
  | text {content : String} :
    Enters resolver (.text content) []

/-- What nodes add to the entries of a set, one after another. -/
inductive Entries (resolver : Resolver) : List Node → List (String × TileImage) → Prop where
  | nil :
    Entries resolver [] []
  | cons {n : Node} {others : List Node} {front behind : List (String × TileImage)} :
    n.Enters resolver front →
    Entries resolver others behind →
    Entries resolver (n :: others) (front ++ behind)

/-- A sequence of two steps succeeds if the first step does, and the second one from there. -/
lemma bind_eq_ok_iff {ε α β : Type} {x : Except ε α} {f : α → Except ε β} {b : β} :
    x >>= f = .ok b ↔ ∃ a, x = .ok a ∧ f a = .ok b := by
  cases x with
  | error =>
    constructor
    · exact nofun
    · exact nofun
  | ok a =>
    constructor
    · exact fun found => ⟨a, rfl, found⟩
    · rintro ⟨a, same, found⟩
      cases same
      exact found

/-- One node says what it means in a respect, or nothing. -/
lemma collect_singleton {α : Type} {part : Sense → Option (Except LoadError α)} {m : Meaning} :
    collect part [m] = match m.sense? part with
      | none => .ok []
      | some result => do return [← result] := by
  rw [collect, List.filterMap_cons]
  cases m.sense? part with
  | none => rfl
  | some result => cases result <;> rfl

/-- What nodes say is what the first of them say, and then what the others say. -/
lemma collect_append {α : Type} (part : Sense → Option (Except LoadError α))
    (ms others : List Meaning) :
    collect part (ms ++ others) = do return (← collect part ms) ++ (← collect part others) := by
  rw [collect, List.filterMap_append, List.mapM_append]
  rfl

/-- A node enters what it says about tiles. -/
lemma Node.enters_iff {n : Node} {front : List (String × TileImage)} :
    n.Enters resolver front ↔ collect Sense.tile [n.meaning resolver] = .ok front := by
  rw [collect_singleton]
  cases n with
  | text content =>
    constructor
    · intro h
      cases h
      rfl
    · intro found
      cases found
      exact .text
  | element name attributes content =>
    by_cases tile : name = "tile"
    · subst tile
      rw [Node.meaning, Meaning.sense?, Sense.of]
      dsimp only
      rw [if_pos rfl]
      constructor
      · intro h
        cases h with
        | tile named held =>
          rw [named, held]
          rfl
        | other differs => exact absurd rfl differs
      · intro found
        obtain ⟨entry, read, same⟩ := bind_eq_ok_iff.1 found
        cases same
        cases named : Element.value? ⟨"tile", attributes, content.isNone⟩ "name" with
        | none =>
          rw [named] at read
          cases read
        | some name =>
          rw [named] at read
          obtain ⟨image, held, same⟩ := bind_eq_ok_iff.1 read
          cases same
          exact .tile named held
    · rw [Node.meaning, Meaning.sense?, Sense.of]
      dsimp only
      rw [if_neg tile]
      constructor
      · intro h
        cases h with
        | tile => exact absurd rfl tile
        | other => rfl
      · intro found
        cases found
        exact .other tile

/-- The entries of nodes are what they say about tiles, if none of them fails. -/
lemma entries_iff {content : List Node} {l : List (String × TileImage)} :
    Entries resolver content l ↔ collect Sense.tile (meaningsOf resolver content) = .ok l := by
  induction content generalizing l with
  | nil =>
    constructor
    · intro h
      cases h
      rfl
    · intro found
      cases found
      exact .nil
  | cons n others ih =>
    have first := collect_append Sense.tile [n.meaning resolver] (meaningsOf resolver others)
    rw [List.singleton_append] at first
    rw [meaningsOf, first]
    constructor
    · intro h
      cases h with
      | cons enters entries =>
        rw [Node.enters_iff.1 enters, ih.1 entries]
        rfl
    · intro found
      obtain ⟨front, read, found⟩ := bind_eq_ok_iff.1 found
      obtain ⟨behind, read', same⟩ := bind_eq_ok_iff.1 found
      cases same
      exact .cons (Node.enters_iff.2 read) (ih.2 read')

/-- Nodes in another order have the same entries in another order. -/
lemma Entries.perm {content content' : List Node} {l : List (String × TileImage)}
    (h : Entries resolver content l) (perm : content.Perm content') :
    ∃ l', Entries resolver content' l' ∧ l.Perm l' := by
  induction perm generalizing l with
  | nil => exact ⟨l, h, .refl l⟩
  | cons n _ ih =>
    cases h with
    | cons enters entries =>
      obtain ⟨behind, entries', perm⟩ := ih entries
      exact ⟨_, .cons enters entries', perm.append_left _⟩
  | swap n m others =>
    cases h with
    | @cons _ _ front _ enters entries =>
      cases entries with
      | @cons _ _ front' behind enters' entries =>
        refine ⟨_, .cons enters' (.cons enters entries), ?_⟩
        rw [← List.append_assoc, ← List.append_assoc]
        exact List.perm_append_comm.append_right behind
  | trans _ _ ih ih' =>
    obtain ⟨l', entries, perm⟩ := ih h
    obtain ⟨l'', entries, perm'⟩ := ih' entries
    exact ⟨l'', entries, perm.trans perm'⟩

/-- The set that nodes mean is the map of their entries. -/
lemma tileSet_eq_ok_iff {content : List Node} {set : TileSet} :
    tileSet (meaningsOf resolver content) = .ok set ↔
      ∃ l, Entries resolver content l ∧ set.Collects l := by
  constructor
  · intro found
    obtain ⟨l, entries, same⟩ := bind_eq_ok_iff.1 found
    cases same
    exact ⟨l, entries_iff.2 entries, TileSet.collects_ofEntries l⟩
  · rintro ⟨l, entries, collects⟩
    rw [tileSet, entries_iff.1 entries, collects.eq_ofEntries]
    rfl

/-! ## Documents -/

/-- A document with a root element that is closed. Texts may stand in front of the root, and anything
behind it. -/
structure Document where
  before : List String
  name : String
  attributes : List Attribute
  content : Option (List Node)
  behind : List Token

namespace Document

/-- The nodes that stand in the root element. -/
def nodes (d : Document) : List Node := d.content.getD []

/-- The tokens of a document. -/
def tokens (d : Document) : List Token :=
  d.before.map .text ++ ((Node.element d.name d.attributes d.content).tokens ++ d.behind)

/-- Texts before the root element say nothing. -/
lemma read_texts (before : List String) (rest : List Token) :
    Focus.prologue.read resolver (before.map .text ++ rest) = Focus.prologue.read resolver rest := by
  induction before with
  | nil => rfl
  | cons content before ih =>
    rw [List.map_cons, List.cons_append, Focus.read_text]
    exact ih

/-- A document is read as the set that the nodes in its root mean. -/
lemma readTileSet_tokens (d : Document) :
    readTileSet resolver d.tokens = tileSet (meaningsOf resolver d.nodes) := by
  have inside : meaningsIn resolver d.content = meaningsOf resolver d.nodes := by
    rw [nodes]
    cases d.content <;> rfl
  show (Focus.prologue.read resolver d.tokens).map _ = _
  rw [tokens, read_texts, (Node.element d.name d.attributes d.content).reads .prologue d.behind,
    Node.meaning, Focus.absorb, Sense.of, inside]
  cases tileSet (meaningsOf resolver d.nodes) <;> rfl

/-- What can be read is a document. -/
lemma exists_tokens {tokens : List Token} {r : TileSet × List Token}
    (found : Focus.prologue.read resolver tokens = .ok r) : ∃ d : Document, tokens = d.tokens := by
  induction tokens with
  | nil => cases found
  | cons token behind ih =>
    cases token with
    | text content =>
      rw [Focus.read_text] at found
      obtain ⟨d, rfl⟩ := ih found
      exact ⟨{ d with before := content :: d.before }, rfl⟩
    | start el =>
      obtain ⟨name, attributes, empty⟩ := el
      cases empty with
      | true => exact ⟨⟨[], name, attributes, none, behind⟩, rfl⟩
      | false =>
        rw [Focus.read, Position.read_cons] at found
        have inside : Position.read resolver ⟨.tileSet .empty, 0⟩ behind = .ok r := found
        obtain ⟨levels, rest, length, rfl⟩ := Position.read_levels _ inside
        obtain ⟨content, rfl⟩ := List.length_eq_one_iff.1 length
        refine ⟨⟨[], name, attributes, some content, rest⟩, ?_⟩
        simp only [closing, tokens, Node.tokens, Node.tokensBehind, List.flatMap_cons,
          List.flatMap_nil, List.append_nil, List.map_nil, List.nil_append, List.cons_append,
          Option.isNone_some]
    | close => cases found
    | malformed => cases found

end Document

/-- Tokens can be read as a set of tiles if and only if they are a document with a root that is closed
and every tile in the root is an entry, which takes a name and an image. The set is the map of the
entries: it takes each name to the image of the last entry with this name and has no other tiles, and
it is in the order of the names. In another document with the same nodes in another order the same set
is read if no two entries have one name. -/
theorem readTileSet_collects (resolver : Resolver) :
    (∀ tokens set, readTileSet resolver tokens = .ok set ↔
      ∃ (d : Document) (l : List (String × TileImage)),
        tokens = d.tokens ∧ Entries resolver d.nodes l ∧ set.Collects l) ∧
    ∀ (d d' : Document) (l : List (String × TileImage)), d.nodes.Perm d'.nodes →
      Entries resolver d.nodes l → (l.map (·.1)).Nodup →
      ∃ set, readTileSet resolver d.tokens = .ok set ∧ readTileSet resolver d'.tokens = .ok set := by
  constructor
  · intro tokens set
    constructor
    · intro found
      cases read : Focus.prologue.read resolver tokens with
      | error =>
        have failed : (Focus.prologue.read resolver tokens).map (·.1) = .ok set := found
        rw [read] at failed
        cases failed
      | ok r =>
        obtain ⟨d, rfl⟩ := Document.exists_tokens read
        rw [d.readTileSet_tokens] at found
        obtain ⟨l, entries, collects⟩ := tileSet_eq_ok_iff.1 found
        exact ⟨d, l, rfl, entries, collects⟩
    · rintro ⟨d, l, rfl, entries, collects⟩
      rw [d.readTileSet_tokens]
      exact tileSet_eq_ok_iff.2 ⟨l, entries, collects⟩
  · intro d d' l perm entries distinct
    obtain ⟨l', entries', perm'⟩ := entries.perm perm
    refine ⟨.ofEntries l, ?_, ?_⟩
    · rw [d.readTileSet_tokens]
      exact tileSet_eq_ok_iff.2 ⟨l, entries, TileSet.collects_ofEntries l⟩
    · rw [d'.readTileSet_tokens, ← TileSet.ofEntries_perm distinct perm']
      exact tileSet_eq_ok_iff.2 ⟨l', entries', TileSet.collects_ofEntries l'⟩

end

namespace Harbour

/-- A resolver that knows one sheet. -/
def sheets : Resolver := .ofTable [("tiles", .source (.clear 0 0) 16)]

/-- What a sprite of the sheet is read as. -/
def sprite (x : Int) : TileImage := .sprite ⟨x, 0, 0, 0⟩ (.source (.clear 0 0) 16)

/-- An entry that stands in a place of the sheet. -/
def tile (name place : String) : Node :=
  .element "tile" [("name", name)] (some [.element "image" [("at", place)] none])

/-- What stands beside the entries. -/
def note : Node := .element "note" [] (some [tile "buoy" "4,0"])

/-- A pier and a crane, with a note between them. -/
def document : Document :=
  ⟨["harbour"], "tiles", [], some [tile "pier" "1,0", note, tile "crane" "2,0"], []⟩

/-- The note and the crane in front of the pier. -/
def document' : Document :=
  ⟨[], "tiles", [], some [note, tile "crane" "2,0", tile "pier" "1,0"], [.close]⟩

/-- The example enters its two tiles, one after the other. -/
lemma entries : Entries sheets document.nodes [("pier", sprite 1), ("crane", sprite 2)] := by
  apply Entries.cons (.tile rfl rfl)
  apply Entries.cons (.other (by decide))
  exact Entries.cons (.tile rfl rfl) .nil

end Harbour

/-- A pier and a crane are read as the same set, whichever comes first, and a note beside them adds
nothing to it. -/
theorem readTileSet_collects_harbour :
    Harbour.document.nodes.Perm Harbour.document'.nodes ∧
      (∃ set, readTileSet Harbour.sheets Harbour.document.tokens = .ok set ∧
        readTileSet Harbour.sheets Harbour.document'.tokens = .ok set) ∧
      ∃ set, readTileSet Harbour.sheets Harbour.document.tokens = .ok set ∧ set.size = 2 ∧
        set.get? "crane" = some (Harbour.sprite 2) ∧ set.get? "buoy" = none := by
  obtain ⟨read, reordered⟩ := readTileSet_collects Harbour.sheets
  have perm : Harbour.document.nodes.Perm Harbour.document'.nodes := by
    show List.Perm (_ :: [_, _]) ([_, _] ++ [_])
    exact (List.perm_append_singleton _ _).symm
  have collects :=
    TileSet.collects_ofEntries [("pier", Harbour.sprite 1), ("crane", Harbour.sprite 2)]
  refine ⟨perm, reordered _ _ _ perm Harbour.entries (by decide), _,
    (read _ _).2 ⟨_, _, rfl, Harbour.entries, collects⟩, ?_, ?_, ?_⟩
  · rw [collects.size]
    rfl
  · rw [collects.get?]
    rfl
  · rw [collects.get?]
    rfl

end Cityscape.Markup
