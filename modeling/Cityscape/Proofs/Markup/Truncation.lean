import Cityscape.Proofs.Markup.Preservation

/-!
# Where reading ends

A reader stops at the end of the root element, neither before it nor behind it. The number of
elements that are open around a reader is the number of start tags without an end tag among the
tokens it has read (`Position.depth_step`). So a result is only there when the root element is
closed (`Position.read_closes`), and a document that breaks off before is an error, wherever that is
(`Position.read_truncated`). What stands behind the tokens that have led to a result, or to an error
other than an unexpected end, is not looked at (`Position.read_append`).
-/

namespace Cityscape.Markup

/-- The number of elements that are open behind a token, when so many are open before it. -/
def Token.openBehind (n : Nat) : Token → Nat
  | .start el => if el.empty then n else n + 1
  | .close => n - 1
  | .text _ => n
  | .malformed _ => n

/-- The number of elements that are open behind tokens, when so many are open before them. -/
def openBehind (n : Nat) (tokens : List Token) : Nat := tokens.foldl Token.openBehind n

/-- A document that breaks off inside its root element: the root is not self-closing, and wherever
one looks behind its start tag, some element is open. -/
def Truncated (document : List Token) : Prop :=
  ∃ (before : List Token) (root : Element) (inside : List Token),
    document = before ++ .start root :: inside ∧ (∀ t ∈ before, ∀ el, t ≠ .start el) ∧
      root.empty = false ∧ ∀ read, read <+: inside → 0 < openBehind 1 read

section
variable {g : Goal}

/-! ## How many elements are open around a reader -/

/-- The number of open elements that a place stands for, with those around it. -/
def Place.depth : {g : Goal} → Place g → Nat
  | _, .document => 0
  | _, .layers _ around => around.depth + 1
  | _, .case _ _ _ around => around.depth + 2
  | _, .default _ _ around => around.depth + 2
  | _, .frame _ _ _ _ around => around.depth + 2
  | _, .tile _ _ _ => 2

/-- The number of open elements, down to the innermost one that is not skipped. -/
def Focus.depth : {g : Goal} → Focus g → Nat
  | _, .holding place => place.depth
  | _, .sprite _ around => around.depth + 1
  | _, .switch _ around => around.depth + 1
  | _, .animation _ around => around.depth + 1
  | _, .prologue => 0
  | _, .tileSet _ => 1

/-- The number of open elements behind a token; none is open at the end of the root element. -/
def Outcome.depth : Outcome g → Nat
  | .inside focus => focus.depth
  | .done _ => 0

/-- The number of open elements at a position. -/
def Position.depth (p : Position g) : Nat := p.focus.depth + p.skipped

/-- The number of open elements behind a token, with those that are skipped. -/
def Progress.depth : Progress g → Nat
  | .reading p => p.depth
  | .done _ => 0

/-- What a computation yields, unless it fails, has a property. -/
abbrev Yields {α : Type} (good : α → Prop) : Except LoadError α → Prop :=
  Ensures (fun _ => True) good

/-- Every computation yields something or fails. -/
lemma yields_any {α : Type} (x : Except LoadError α) : Yields (fun _ => True) x :=
  .intro (fun _ _ => trivial) fun _ _ => trivial

section
variable {resolver : Resolver}

/-- To receive an image opens and closes nothing. -/
lemma Place.depth_receive (place : Place g) (image : TileImage) :
    Yields (fun o => o.depth = place.depth) (place.receive image) := by
  cases place with
  | layers below around =>
    cases below with
    | none => exact rfl
    | some below =>
      rw [Place.receive]
      cases TileImage.layer? below image with
      | ok => exact rfl
      | error => exact trivial
  | document | case | default | frame | tile => exact rfl

/-- The end of a place closes one element. -/
lemma Place.depth_close (place : Place g) :
    Yields (fun o => o.depth + 1 = place.depth) (place.close resolver) := by
  cases place with
  | document => exact trivial
  | layers below around =>
    cases below with
    | none => exact trivial
    | some image =>
      have received := around.depth_receive image
      exact .intro (fun o e => congrArg (· + 1) (received.of_ok e)) fun _ _ => trivial
  | case condition found =>
    cases found with
    | none => exact trivial
    | some => exact rfl
  | default found =>
    cases found with
    | none => exact trivial
    | some => exact rfl
  | frame => exact (yields_any _).bind fun _ _ => rfl
  | tile name found =>
    cases found with
    | none => exact trivial
    | some => exact rfl

/-- The end of an element closes it, and opens nothing. -/
lemma Focus.depth_close (focus : Focus g) :
    Yields (fun o => o.depth + 1 = focus.depth) (focus.close resolver) := by
  have received (around : Place g) (image : TileImage) :
      Yields (fun o => o.depth + 1 = around.depth + 1) (around.receive image) :=
    .intro (fun _ e => congrArg (· + 1) ((around.depth_receive image).of_ok e)) fun _ _ => trivial
  cases focus with
  | holding place => exact place.depth_close
  | sprite image around => exact received around image
  | switch draft around => exact (yields_any _).bind fun image _ => received around image
  | animation draft around => exact (yields_any _).bind fun image _ => received around image
  | prologue => exact trivial
  | tileSet => exact rfl

/-- An element that is entered is one more, inside those that are open. -/
lemma Place.depth_enter (place : Place g) (el : Element) :
    Yields (fun inner => ∀ focus ∈ inner, Focus.depth focus = place.depth + 1)
      (place.enter resolver el) := by
  unfold Place.enter
  cases Descriptor.ofTag? el.name with
  | some d =>
    have begun : Yields (fun focus => Focus.depth focus = place.depth + 1)
        (d.begin resolver el place) := by
      cases d with
      | image => exact (yields_any _).bind fun _ _ => rfl
      | animation | switch | layers => exact rfl
    exact begun.bind fun focus entered => forall_mem_some entered
  | none =>
    cases place with
    | document => exact trivial
    | _ => exact forall_mem_none

/-- To enter an element is to have one more open. -/
lemma Focus.depth_enter (focus : Focus g) (el : Element) :
    Yields (fun inner => ∀ f ∈ inner, Focus.depth f = focus.depth + 1)
      (focus.enter resolver el) := by
  cases focus with
  | holding place => exact place.depth_enter el
  | sprite => exact forall_mem_none
  | switch =>
    rw [Focus.enter]
    split
    · exact (yields_any _).bind fun _ _ => forall_mem_some rfl
    · split
      · exact forall_mem_some rfl
      · exact forall_mem_none
  | animation =>
    rw [Focus.enter]
    split
    · exact (yields_any _).bind fun _ _ => forall_mem_some rfl
    · exact forall_mem_none
  | prologue => exact forall_mem_some rfl
  | tileSet =>
    rw [Focus.enter]
    split
    · split
      · exact forall_mem_some rfl
      · exact trivial
    · exact forall_mem_none

/-- A text opens and closes nothing. -/
lemma Focus.depth_addText (focus : Focus g) (content : String) :
    (focus.addText content).depth = focus.depth := by
  cases focus with
  | holding place => cases place <;> rfl
  | _ => rfl

/-- Going on behind a token keeps the number of open elements. -/
lemma Outcome.depth_progress (o : Outcome g) : o.progress.depth = o.depth := by
  cases o <;> rfl

/-- Whether an element has a meaning or is skipped, it is open behind its start tag, unless it ends
with it. -/
lemma Focus.depth_start (focus : Focus g) (el : Element) :
    Yields (fun progress => progress.depth = (Token.start el).openBehind focus.depth)
      (focus.start resolver el) := by
  rw [Token.openBehind]
  refine (focus.depth_enter el).bind fun inner entered => ?_
  cases inner with
  | none =>
    show focus.depth + (if el.empty then 0 else 1) = if el.empty then focus.depth else _
    split <;> rfl
  | some inner =>
    have entered := entered inner rfl
    show Yields _ (if el.empty then _ else _)
    split
    · refine inner.depth_close.bind fun o closed => ?_
      exact o.depth_progress.trans (Nat.succ.inj (closed.trans entered))
    · exact entered

/-- Reading a token keeps the number of open elements. -/
lemma Position.depth_step (p : Position g) (token : Token) :
    Yields (fun progress => progress.depth = token.openBehind p.depth)
      (p.step resolver token) := by
  obtain ⟨focus, skipped⟩ := p
  cases token with
  | malformed => exact trivial
  | text content =>
    rw [Position.step]
    split
    · exact congrArg (· + skipped) (focus.depth_addText content)
    · exact rfl
  | start el =>
    rw [Position.step]
    split
    · rename_i none
      obtain rfl : skipped = 0 := none
      exact focus.depth_start el
    · show focus.depth + (if el.empty then skipped else skipped + 1) = if el.empty then _ else _
      split <;> rfl
  | close =>
    cases skipped with
    | zero =>
      refine focus.depth_close.bind fun o closed => ?_
      exact o.depth_progress.trans (Nat.eq_sub_of_add_eq closed)
    | succ => exact rfl

/-! ## Reading ends with the root element -/

/-- When reading has come to a result, all elements are closed. -/
lemma Position.read_closes (p : Position g) (document : List Token) :
    Yields (fun r => ∃ read, document = read ++ r.2 ∧ openBehind p.depth read = 0)
      (p.read resolver document) := by
  induction document generalizing p with
  | nil => exact trivial
  | cons token rest ih =>
    have step := @Position.depth_step _ resolver p token
    rw [Position.read]
    cases e : p.step resolver token with
    | error => exact trivial
    | ok progress =>
      have step := step.of_ok e
      cases progress with
      | done result => exact ⟨[token], rfl, step.symm⟩
      | reading next =>
        refine .intro (fun r found => ?_) fun _ _ => trivial
        obtain ⟨read, split, closed⟩ := (ih next).of_ok found
        refine ⟨token :: read, congrArg (token :: ·) split, ?_⟩
        rw [openBehind, List.foldl_cons, ← step]
        exact closed

/-- Where no element is open, a reader waits for a start tag. -/
lemma Position.step_outside (p : Position g) (outside : p.depth = 0) {token : Token}
    (h : ∀ el, token ≠ .start el) :
    p.step resolver token = .ok (.reading p) ∨ ∃ e, p.step resolver token = .error e := by
  obtain ⟨focus, skipped⟩ := p
  obtain ⟨focusOutside, rfl⟩ : focus.depth = 0 ∧ skipped = 0 := Nat.add_eq_zero_iff.1 outside
  have root : (∀ content, focus.addText content = focus) ∧
      ∃ e, focus.close resolver = .error e := by
    cases focus with
    | holding place =>
      cases place with
      | document => exact ⟨fun _ => rfl, _, rfl⟩
      | _ => exact absurd focusOutside (Nat.succ_ne_zero _)
    | prologue => exact ⟨fun _ => rfl, _, rfl⟩
    | _ => exact absurd focusOutside (Nat.succ_ne_zero _)
  obtain ⟨text, e, close⟩ := root
  cases token with
  | start el => exact absurd rfl (h el)
  | text content =>
    refine .inl ?_
    show Except.ok (Progress.reading ⟨focus.addText content, 0⟩) = _
    rw [text]
  | close =>
    refine .inr ⟨e, ?_⟩
    show (do return (← focus.close resolver).progress) = _
    rw [close]
    rfl
  | malformed fault => exact .inr ⟨_, rfl⟩

/-- A document that breaks off inside its root element is an error. -/
lemma Position.read_truncated (p : Position g) (outside : p.depth = 0) {document : List Token}
    (h : Truncated document) : ∃ e, p.read resolver document = .error e := by
  obtain ⟨before, root, inside, rfl, noStart, open', unclosed⟩ := h
  -- Before the root element the reader stays where it is; its start tag opens the first element.
  induction before with
  | nil =>
    rw [List.nil_append, Position.read]
    cases begun : p.step resolver (.start root) with
    | error e => exact ⟨e, rfl⟩
    | ok progress =>
      have depth : progress.depth = 1 := by
        rw [(p.depth_step _).of_ok begun, outside, Token.openBehind, open']
        rfl
      cases progress with
      | done => exact absurd depth Nat.zero_ne_one
      | reading next =>
        show ∃ e, next.read resolver inside = .error e
        cases found : next.read resolver inside with
        | error e => exact ⟨e, rfl⟩
        | ok r =>
          obtain ⟨read, split, closed⟩ := (next.read_closes inside).of_ok found
          have still := unclosed read ⟨r.2, split.symm⟩
          rw [show next.depth = 1 from depth] at closed
          exact absurd closed (Nat.ne_of_gt still)
  | cons token before ih =>
    obtain ⟨first, others⟩ := List.forall_mem_cons.1 noStart
    rw [List.cons_append, Position.read]
    rcases p.step_outside outside first with same | ⟨e, failed⟩
    · rw [same]
      exact ih others
    · rw [failed]
      exact ⟨e, rfl⟩

/-- What follows the tokens that decide the result of reading stays unread. -/
lemma Position.read_append (p : Position g) {document : List Token} (more : List Token)
    (h : p.read resolver document ≠ .error .unexpectedEnd) :
    p.read resolver (document ++ more) =
      (p.read resolver document).map fun r => (r.1, r.2 ++ more) := by
  induction document generalizing p with
  | nil => exact absurd rfl h
  | cons token rest ih =>
    rw [List.cons_append, Position.read, Position.read]
    rw [Position.read] at h
    cases e : p.step resolver token with
    | error => rfl
    | ok progress =>
      rw [e] at h
      cases progress with
      | done => rfl
      | reading next => exact ih next h

/-- If a result does not depend on the end of the document, it is the same with more tokens behind
it. -/
lemma map_read_append (p : Position g) {document : List Token} (more : List Token)
    (h : (p.read resolver document).map (·.1) ≠ .error .unexpectedEnd) :
    (p.read resolver (document ++ more)).map (·.1) = (p.read resolver document).map (·.1) := by
  have decided : p.read resolver document ≠ .error .unexpectedEnd := fun e => h (by rw [e]; rfl)
  rw [p.read_append more decided]
  cases p.read resolver document <;> rfl

end

end

/-- A document that breaks off inside its root element is read neither as an image nor as a set of
tiles. What reading a document yields, be it a result or an error other than an unexpected end, it
yields with anything behind the document too. -/
theorem read_to_end_of_root (resolver : Resolver) :
    (∀ document, Truncated document →
      (∃ e, readImage resolver document = .error e) ∧
        ∃ e, readTileSet resolver document = .error e) ∧
    ∀ document more : List Token,
      (readImage resolver document ≠ .error .unexpectedEnd →
        readImage resolver (document ++ more) = readImage resolver document) ∧
      (readTileSet resolver document ≠ .error .unexpectedEnd →
        readTileSet resolver (document ++ more) = readTileSet resolver document) := by
  refine ⟨fun document truncated => ⟨?_, ?_⟩, fun document more => ⟨?_, ?_⟩⟩
  · obtain ⟨e, failed⟩ := @Position.read_truncated _ resolver ⟨.holding .document, 0⟩ rfl _ truncated
    exact ⟨e, by rw [readImage, failed]; rfl⟩
  · obtain ⟨e, failed⟩ := @Position.read_truncated _ resolver ⟨.prologue, 0⟩ rfl _ truncated
    exact ⟨e, by rw [readTileSet, failed]; rfl⟩
  · exact map_read_append _ more
  · exact map_read_append _ more

namespace Cut

/-- A resolver that knows one sheet. -/
def sheets : Resolver := .ofTable [("tiles", .source (.clear 0 0) 16)]

/-- The start tag of a layered image. -/
def root : Token := .start ⟨"layered-image", [], false⟩

/-- A layer. -/
def layer : Token := .start ⟨"image", [], true⟩

/-- The example is a document that breaks off. -/
lemma truncated : Truncated [root, layer] := by
  refine ⟨[], _, [layer], rfl, (fun _ none => nomatch none), rfl, fun read cut => ?_⟩
  rcases List.prefix_cons_iff.1 cut with rfl | ⟨rest, rfl, nothing⟩
  · exact Nat.zero_lt_one
  · obtain rfl := List.prefix_nil.1 nothing
    exact Nat.zero_lt_one

end Cut

/-- Without its end tag, a layered image is no image; with it, one more end tag does not matter. -/
theorem read_to_end_of_root_cut :
    Truncated [Cut.root, Cut.layer] ∧
      (∃ e, readImage Cut.sheets [Cut.root, Cut.layer] = .error e) ∧
      readImage Cut.sheets [Cut.root, Cut.layer, .close] ≠ .error .unexpectedEnd ∧
      readImage Cut.sheets ([Cut.root, Cut.layer, .close] ++ [.close]) =
        readImage Cut.sheets [Cut.root, Cut.layer, .close] := by
  have image : readImage Cut.sheets [Cut.root, Cut.layer, .close] ≠ .error .unexpectedEnd := nofun
  obtain ⟨cut, behind⟩ := read_to_end_of_root Cut.sheets
  exact ⟨Cut.truncated, (cut _ Cut.truncated).1, image, (behind _ [.close]).1 image⟩

end Cityscape.Markup
