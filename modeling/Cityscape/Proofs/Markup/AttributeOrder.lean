import Cityscape.Markup.Reader
import Cityscape.Proofs.TileSet
import Mathlib.Control.Monad.Basic
import Mathlib.Data.List.Forall2
import Mathlib.Data.List.Nodup
import Mathlib.Tactic.Lemma

/-!
# The order of attributes

A reader asks an element for its name, for the values of single attributes, and whether it ends with
its tag. Where no attribute occurs twice, the order of the attributes has no part in the answers
(`Element.Reordered.alike`), and elements that give the same answers lead from one position to the
same progress (`Position.step_congr`). So documents that differ in the order of attributes only are
read alike, down to the error (`Position.read_congr`).

What the attributes of a case say is collected side by side; `Element.States` is the invariant of
the sides that have been looked at. The condition of a case holds where the tile on each side that
an attribute names is as this attribute expects (`Element.condition_states`).
-/

namespace Cityscape.Markup

/-! ## Attributes without repetition -/

/-- No attribute of the element occurs twice. -/
def Element.Distinct (el : Element) : Prop := (el.attributes.map (·.1)).Nodup

/-- Without repetition, the value of an attribute is the one that it is given. -/
lemma value?_eq_some_iff {el : Element} (distinct : el.Distinct) {key value : String} :
    el.value? key = some value ↔ (key, value) ∈ el.attributes :=
  lookup_eq_some_iff distinct

/-- Two elements that differ in the order of their attributes only, none of which occurs twice. -/
structure Element.Reordered (el el' : Element) : Prop where
  name : el'.name = el.name
  empty : el'.empty = el.empty
  attributes : el'.attributes.Perm el.attributes
  distinct : el.Distinct

/-- Two elements that give a reader the same answers. -/
structure Element.Alike (el el' : Element) : Prop where
  name : el'.name = el.name
  empty : el'.empty = el.empty
  value? : el'.value? = el.value?

/-- Elements that differ in the order of their attributes only are alike. -/
lemma Element.Reordered.alike {el el' : Element} (h : el.Reordered el') : el.Alike el' where
  name := h.name
  empty := h.empty
  value? := by
    have distinct' : el'.Distinct := (h.attributes.map _).nodup_iff.2 h.distinct
    funext key
    ext value
    rw [value?_eq_some_iff distinct', value?_eq_some_iff h.distinct, h.attributes.mem_iff]

/-! ## Reading elements that are alike -/

section
variable {g : Goal} {resolver : Resolver} {el el' : Element}

/-- Elements that are alike have the same numbers. -/
lemma natural_congr (h : el.Alike el') (bounds : Bounds) (key : String) (default : Nat) :
    el'.natural bounds key default = el.natural bounds key default := by
  rw [Element.natural, Element.natural, h.value?, h.name]

/-- Elements that are alike have the same offset. -/
lemma shift_congr (h : el.Alike el') : el'.shift = el.shift := by
  rw [Element.shift, Element.shift, h.value?, h.name]

/-- Elements that are alike stand for the same sprite. -/
lemma sprite_congr (h : el.Alike el') : el'.sprite resolver = el.sprite resolver := by
  simp only [Element.sprite, h.value?, shift_congr h, natural_congr h]

/-- Elements that are alike state the same condition. -/
lemma condition_congr (h : el.Alike el') : el'.condition = el.condition := by
  have same : el'.addCondition = el.addCondition := by
    funext before side
    rw [Element.addCondition, Element.addCondition, h.value?]
  rw [Element.condition, Element.condition, same]

/-- What describes an image begins in the same way at elements that are alike. -/
lemma Descriptor.begin_congr (h : el.Alike el') (around : Place g) (d : Descriptor) :
    d.begin resolver el' around = d.begin resolver el around := by
  cases d with
  | image => rw [Descriptor.begin, Descriptor.begin, sprite_congr h]
  | animation => rw [Descriptor.begin, Descriptor.begin, h.name]
  | switch => rfl
  | layers => rfl

/-- At a place, elements that are alike are entered in the same way. -/
lemma Place.enter_congr (h : el.Alike el') (place : Place g) :
    place.enter resolver el' = place.enter resolver el := by
  simp only [Place.enter, h.name, Descriptor.begin_congr h]

/-- Wherever they stand, elements that are alike are entered in the same way. -/
lemma Focus.enter_congr (h : el.Alike el') (focus : Focus g) :
    focus.enter resolver el' = focus.enter resolver el := by
  cases focus with
  | holding place => exact place.enter_congr h
  | sprite => rfl
  | switch => rw [Focus.enter, Focus.enter, h.name, condition_congr h]
  | animation => rw [Focus.enter, Focus.enter, h.name, natural_congr h]
  | prologue => rfl
  | tileSet => rw [Focus.enter, Focus.enter, h.name, h.value?]

/-- The start tags of elements that are alike are read in the same way. -/
lemma Focus.start_congr (h : el.Alike el') (focus : Focus g) :
    focus.start resolver el' = focus.start resolver el := by
  rw [Focus.start, Focus.start, focus.enter_congr h, h.empty]

/-- Equal tokens, or start tags that differ in the order of their attributes only. -/
inductive Token.Reordered : Token → Token → Prop
  | same (token : Token) : Reordered token token
  | start {el el' : Element} (h : el.Reordered el') : Reordered (.start el) (.start el')

/-- Tokens that differ in the order of attributes only take a reader to the same place. -/
lemma Position.step_congr {token token' : Token} (h : token.Reordered token') (p : Position g) :
    p.step resolver token' = p.step resolver token := by
  cases h with
  | same => rfl
  | start h => rw [Position.step, Position.step, p.focus.start_congr h.alike, h.empty]

/-- Only the tokens that are left over differ. -/
lemma Position.read_congr {document document' : List Token}
    (h : List.Forall₂ Token.Reordered document document') (p : Position g) :
    (p.read resolver document').map (·.1) = (p.read resolver document).map (·.1) := by
  induction h generalizing p with
  | nil => rfl
  | cons first _ ih =>
    rw [Position.read, Position.read, p.step_congr first]
    cases p.step resolver _ with
    | error => rfl
    | ok progress =>
      cases progress with
      | done => rfl
      | reading next => exact ih next

end

/-! ## Reading documents -/

/-- What stands in a tag starts an element. -/
def StartTag (content : Bytes) (el : Element) : Prop :=
  content.head? ≠ some (ascii '/') ∧
    Token.element (Token.withoutSlash content).1 (Token.withoutSlash content).2 = .ok el

instance (content : Bytes) (el : Element) : Decidable (StartTag content el) :=
  inferInstanceAs (Decidable (_ ∧ _))

/-- Equal segments, or tags that start elements which differ in the order of their attributes only.
The name of a tag is the one its end tag repeats, not only the part behind a colon. -/
inductive Segment.Reordered : Segment → Segment → Prop
  | same (segment : Segment) : Reordered segment segment
  | tag {content content' : Bytes} {el el' : Element} (starts : StartTag content el)
      (starts' : StartTag content' el')
      (name : Token.openedName (Token.withoutSlash content').1 =
        Token.openedName (Token.withoutSlash content).1)
      (h : el.Reordered el') : Reordered (.tag content) (.tag content')

/-- A tag that starts an element becomes the start token of that element. -/
lemma StartTag.ofSegments {content : Bytes} {el : Element} (h : StartTag content el)
    (opened : List Bytes) (rest : List Segment) :
    Token.ofSegments opened (.tag content :: rest) =
      .start el :: Token.ofSegments
        (if el.empty then opened else Token.openedName (Token.withoutSlash content).1 :: opened)
        rest := by
  obtain ⟨notEnd, reads⟩ := h
  have empty : el.empty = (Token.withoutSlash content).2 := by
    rw [Token.element] at reads
    cases e : attributes ((Token.withoutSlash content).1.dropWhile (!isSpace ·)) with
    | error => rw [e] at reads; cases reads
    | ok => rw [e] at reads; cases reads; rfl
  simp only [Token.ofSegments, if_neg notEnd, reads, empty]

/-- The tokens of a segment depend on what is open before it, and so does what is open behind it,
if the document can go on there. -/
lemma ofSegments_cons (opened : List Bytes) (segment : Segment) :
    ∃ (front : List Token) (behind : Option (List Bytes)), ∀ rest,
      Token.ofSegments opened (segment :: rest) =
        front ++ (behind.map (Token.ofSegments · rest)).getD [] := by
  have fault : ∀ f, ∃ (front : List Token) (behind : Option (List Bytes)), ∀ rest,
      [Token.malformed f] = front ++ (behind.map (Token.ofSegments · rest)).getD [] :=
    fun f => ⟨[.malformed f], none, fun _ => rfl⟩
  cases segment with
  | text content =>
    simp only [Token.ofSegments]
    cases text? content with
    | some s => exact ⟨[.text s], some opened, fun _ => rfl⟩
    | none => exact fault _
  | characterData content =>
    simp only [Token.ofSegments]
    cases Token.characterData? content with
    | some s => exact ⟨[.text s], some opened, fun _ => rfl⟩
    | none => exact fault _
  | comment content | documentType content | instruction content =>
    simp only [Token.ofSegments]
    split
    · exact ⟨[], some opened, fun _ => rfl⟩
    · exact fault _
  | broken => exact fault _
  | tag content =>
    by_cases ends : content.head? = some (ascii '/')
    · simp only [Token.ofSegments, if_pos ends]
      cases opened with
      | nil => exact fault _
      | cons name outer =>
        by_cases same : Token.closedName content.tail = name
        · simp only [if_pos same]
          exact ⟨[.close], some outer, fun _ => rfl⟩
        · simp only [if_neg same]
          exact fault _
    · cases e : Token.element (Token.withoutSlash content).1 (Token.withoutSlash content).2 with
      | ok el => exact ⟨[.start el], some _, fun rest => StartTag.ofSegments ⟨ends, e⟩ opened rest⟩
      | error f =>
        simp only [Token.ofSegments, if_neg ends, e]
        exact fault _

/-- Segments that differ in the order of attributes only become tokens that do. -/
lemma ofSegments_reordered {written written' : List Segment}
    (h : List.Forall₂ Segment.Reordered written written') (opened : List Bytes) :
    List.Forall₂ Token.Reordered (Token.ofSegments opened written)
      (Token.ofSegments opened written') := by
  induction h generalizing opened with
  | nil => exact .nil
  | cons first _ ih =>
    cases first with
    | same =>
      obtain ⟨front, behind, tokens⟩ := ofSegments_cons opened _
      rw [tokens, tokens]
      -- The same elements are open behind the segment in both documents.
      refine List.rel_append (List.forall₂_same.2 fun token _ => .same token) ?_
      cases behind with
      | none => exact .nil
      | some opened => exact ih opened
    | tag starts starts' name h =>
      rw [starts.ofSegments, starts'.ofSegments, name, h.empty]
      exact .cons (.start h) (ih _)

/-- Two documents that differ in the order of attributes only. -/
def Reordered (document document' : Bytes) : Prop :=
  List.Forall₂ Segment.Reordered (segments document) (segments document')

/-! ## The condition of a case -/

/-- The tile on a side is there and as an attribute of the element expects, if it has one. -/
def Element.Met (el : Element) (dc : DrawContext) (side : Side) : Prop :=
  ∀ value spec, (side.attributeName, value) ∈ el.attributes → TileSpec.read value = .ok spec →
    ∃ t, dc.city (side.of dc.location) = some t ∧ spec.admits t = true

/-- What has been read of a condition says what the attributes for some sides expect. -/
structure Element.States (el : Element) (sides : List Side) (read : Option Condition) : Prop where
  isSome_iff : read.isSome ↔ ∃ side ∈ sides, ∃ value, (side.attributeName, value) ∈ el.attributes
  holds_iff : ∀ dc, (∀ c, read = some c → c.holds dc = true) ↔ ∀ side ∈ sides, el.Met dc side

/-- A condition on a tile holds if there is a tile on that side, and it is admitted. -/
lemma holds_tile {dc : DrawContext} {side : Side} {spec : TileSpec} :
    (Condition.tile side spec).holds dc = true ↔
      ∃ t, dc.city (side.of dc.location) = some t ∧ spec.admits t = true := by
  rw [Condition.holds]
  cases dc.city (side.of dc.location) <;> simp

section
variable {el : Element} {sides : List Side} {before : Option Condition}

/-- A side is as the one attribute expects that names it. -/
lemma met_iff (distinct : el.Distinct) {dc : DrawContext} {side : Side} {value : String}
    {spec : TileSpec} (mem : (side.attributeName, value) ∈ el.attributes)
    (read : TileSpec.read value = .ok spec) :
    el.Met dc side ↔ (Condition.tile side spec).holds dc = true := by
  rw [holds_tile]
  constructor
  · exact fun met => met value spec mem read
  · intro holds value' spec' mem' read'
    have found := (value?_eq_some_iff distinct).2 mem
    obtain rfl : value = value' :=
      Option.some.inj (found.symm.trans ((value?_eq_some_iff distinct).2 mem'))
    obtain rfl : spec = spec' := Except.ok.inj (read.symm.trans read')
    exact holds

/-- A side that no attribute names adds nothing to what is stated. -/
lemma Element.States.skip {side : Side} (h : el.States sides before)
    (absent : ∀ value, (side.attributeName, value) ∉ el.attributes) :
    el.States (sides ++ [side]) before where
  isSome_iff := by simp [h.isSome_iff, or_and_right, exists_or, absent]
  holds_iff dc := by
    have met : el.Met dc side := fun value _ mem => absurd mem (absent value)
    simp [h.holds_iff, or_imp, forall_and, met]

/-- One more side is looked at. -/
lemma Element.States.addCondition (distinct : el.Distinct) (h : el.States sides before)
    (side : Side) (parse : ∀ value, (side.attributeName, value) ∈ el.attributes →
      ∃ spec, TileSpec.read value = .ok spec) :
    ∃ behind, el.addCondition before side = .ok behind ∧ el.States (sides ++ [side]) behind := by
  cases found : el.value? side.attributeName with
  | none =>
    refine ⟨before, by rw [Element.addCondition, found], h.skip fun value mem => ?_⟩
    rw [(value?_eq_some_iff distinct).2 mem] at found
    cases found
  | some value =>
    have mem := (value?_eq_some_iff distinct).1 found
    obtain ⟨spec, read⟩ := parse value mem
    have joined : ∃ c, el.addCondition before side = .ok (some c) ∧ ∀ dc, c.holds dc = true ↔
        (∀ b, before = some b → b.holds dc = true) ∧ el.Met dc side := by
      simp only [Element.addCondition, found, read, met_iff distinct mem read]
      cases before with
      | none => exact ⟨_, rfl, fun dc => by simp⟩
      | some before => exact ⟨_, rfl, fun dc => by simp⟩
    obtain ⟨c, added, holds⟩ := joined
    refine ⟨some c, added, iff_of_true rfl ⟨side, by simp, value, mem⟩, fun dc => ?_⟩
    simp [holds, or_imp, forall_and, h.holds_iff]

/-- More sides are looked at, one after another. -/
lemma Element.States.foldlM (distinct : el.Distinct) (h : el.States sides before) (more : List Side)
    (parse : ∀ side ∈ more, ∀ value, (side.attributeName, value) ∈ el.attributes →
      ∃ spec, TileSpec.read value = .ok spec) :
    ∃ behind, more.foldlM el.addCondition before = .ok behind ∧
      el.States (sides ++ more) behind := by
  induction more generalizing sides before with
  | nil => exact ⟨before, rfl, by rwa [List.append_nil]⟩
  | cons side more ih =>
    obtain ⟨first, others⟩ := List.forall_mem_cons.1 parse
    obtain ⟨next, read, states⟩ := h.addCondition distinct side first
    obtain ⟨behind, reads, states⟩ := ih states others
    refine ⟨behind, ?_, by rwa [List.append_cons]⟩
    rw [List.foldlM_cons, read]
    exact reads

/-- Every side is among those that can be named. -/
lemma Side.mem_all (side : Side) : side ∈ Side.all := by
  cases side <;> decide

/-- The condition of a case is there when one of its attributes is, and holds where the tiles on all
sides are as they expect. -/
lemma Element.condition_states (distinct : el.Distinct)
    (present : ∃ side value, (Side.attributeName side, value) ∈ el.attributes)
    (parse : ∀ side value, (Side.attributeName side, value) ∈ el.attributes →
      ∃ spec, TileSpec.read value = .ok spec) :
    ∃ condition, el.condition = .ok condition ∧
      ∀ dc, condition.holds dc = true ↔ ∀ side, el.Met dc side := by
  have nothing : el.States [] none := ⟨by simp, by simp⟩
  obtain ⟨behind, read, states⟩ :=
    nothing.foldlM distinct Side.all fun side _ value => parse side value
  obtain ⟨side, value, mem⟩ := present
  obtain ⟨condition, rfl⟩ := Option.isSome_iff_exists.1
    (states.isSome_iff.2 ⟨side, Side.mem_all side, value, mem⟩)
  refine ⟨condition, by rw [Element.condition, read]; rfl, fun dc => ?_⟩
  have holds := states.holds_iff dc
  simpa [Side.mem_all] using holds

end

/-- Documents that differ in the order of attributes only are read as the same image, the same set
of tiles, or the same error, be they sequences of tokens or bytes. A case with attributes that
expect something, all of which can be read, has a condition, and it holds where on each side that
one of them names there is a tile as this one expects. -/
theorem read_reordered (resolver : Resolver) :
    (∀ document document' : List Token, List.Forall₂ Token.Reordered document document' →
      readImage resolver document' = readImage resolver document ∧
        readTileSet resolver document' = readTileSet resolver document) ∧
    (∀ document document' : Bytes, Reordered document document' →
      readImage resolver (tokens document') = readImage resolver (tokens document) ∧
        readTileSet resolver (tokens document') = readTileSet resolver (tokens document)) ∧
    ∀ el : Element, el.Distinct →
      (∃ side value, (Side.attributeName side, value) ∈ el.attributes) →
      (∀ side value, (Side.attributeName side, value) ∈ el.attributes →
        ∃ spec, TileSpec.read value = .ok spec) →
      ∃ condition, el.condition = .ok condition ∧
        ∀ dc, condition.holds dc = true ↔ ∀ side, el.Met dc side := by
  refine ⟨fun document document' same => ⟨?_, ?_⟩, fun document document' same => ⟨?_, ?_⟩,
    fun el => Element.condition_states⟩
  · exact Position.read_congr same _
  · exact Position.read_congr same _
  · exact Position.read_congr (ofSegments_reordered same []) _
  · exact Position.read_congr (ofSegments_reordered same []) _

namespace Bridgehead

/-- A resolver that knows one sheet. -/
def sheets : Resolver := .ofTable [("tiles", .source (.clear 0 0) 16)]

/-- A case for a road with a bridge west of it. -/
def road : Element := ⟨"case", [("tile", "road"), ("tile-west", "64")], false⟩

/-- The same case, written the other way round. -/
def road' : Element := ⟨"case", [("tile-west", "64"), ("tile", "road")], false⟩

/-- A switch with one case. -/
def document (tag : String) : Bytes :=
  asciiBytes ("<switch><" ++ tag ++ "><image/></case><default><image/></default></switch>")

/-- What is written in the tag of the case. -/
def tag : String := "case tile='road' tile-west='64'"

/-- The attributes in the other order. -/
def tag' : String := "case tile-west='64' tile='road'"

/-- The segments of the switch behind the tag of its case. -/
def behind : List Segment :=
  ["image/", "/case", "default", "image/", "/default", "/switch"].map (.tag ∘ asciiBytes)

/-- No attribute of the road in the example occurs twice. -/
lemma distinct : road.Distinct := by
  show ["tile", "tile-west"].Nodup
  decide

/-- The two documents of the example differ in the order of attributes only. -/
lemma reordered : Reordered (document tag) (document tag') := by
  have segments_tag : segments (document tag) =
      .tag (asciiBytes "switch") :: .tag (asciiBytes tag) :: behind := by decide +kernel
  have segments_tag' : segments (document tag') =
      .tag (asciiBytes "switch") :: .tag (asciiBytes tag') :: behind := by decide +kernel
  have starts : StartTag (asciiBytes tag) road := by decide +kernel
  have starts' : StartTag (asciiBytes tag') road' := by decide +kernel
  rw [Reordered, segments_tag, segments_tag']
  exact .cons (.same _) (.cons (.tag starts starts' (by decide +kernel)
    ⟨rfl, rfl, .swap _ _ _, distinct⟩) (List.forall₂_same.2 fun segment _ => .same segment))

/-- Every side in the example names tiles that can be read. -/
lemma parse (side : Side) (value : String) (mem : (side.attributeName, value) ∈ road.attributes) :
    ∃ spec, TileSpec.read value = .ok spec := by
  have values : value = "road" ∨ value = "64" := by
    simp only [road, List.mem_cons, Prod.mk.injEq, List.not_mem_nil, or_false] at mem
    exact mem.imp And.right And.right
  rcases values with rfl | rfl
  · exact ⟨.ofClass .road, rfl⟩
  · exact ⟨.ofCode 64, rfl⟩

end Bridgehead

/-- The order of its two attributes does not matter to a case for a road with a bridge west of it.
-/
theorem read_reordered_bridgehead :
    (List.Forall₂ Token.Reordered (tokens (Bridgehead.document Bridgehead.tag))
        (tokens (Bridgehead.document Bridgehead.tag')) ∧
      Reordered (Bridgehead.document Bridgehead.tag) (Bridgehead.document Bridgehead.tag') ∧
      (readImage Bridgehead.sheets (tokens (Bridgehead.document Bridgehead.tag))).isOk ∧
      readImage Bridgehead.sheets (tokens (Bridgehead.document Bridgehead.tag')) =
        readImage Bridgehead.sheets (tokens (Bridgehead.document Bridgehead.tag)) ∧
      readTileSet Bridgehead.sheets (tokens (Bridgehead.document Bridgehead.tag')) =
        readTileSet Bridgehead.sheets (tokens (Bridgehead.document Bridgehead.tag))) ∧
    Bridgehead.road.Distinct ∧ (Side.attributeName .west, "64") ∈ Bridgehead.road.attributes ∧
      ∃ condition, Bridgehead.road.condition = .ok condition ∧
        ∀ dc, condition.holds dc = true ↔ ∀ side, Bridgehead.road.Met dc side := by
  obtain ⟨ofTokens, ofBytes, ofCase⟩ := read_reordered Bridgehead.sheets
  have same := ofSegments_reordered Bridgehead.reordered []
  have west : (Side.attributeName .west, "64") ∈ Bridgehead.road.attributes := by decide
  exact ⟨⟨same, Bridgehead.reordered, by decide +kernel, (ofTokens _ _ same).1,
    (ofBytes _ _ Bridgehead.reordered).2⟩, Bridgehead.distinct, west,
    ofCase _ Bridgehead.distinct ⟨.west, "64", west⟩ Bridgehead.parse⟩

end Cityscape.Markup
