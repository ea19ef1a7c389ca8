import Cityscape.Proofs.Markup.Meaning

/-!
# Reading the content of elements

`Focus.absorb` says what a node contributes to the open element that it stands in, by its meaning
alone. `Node.Reads` is the property of a node that reading its tokens does just that and leaves all
behind them unread. This module derives from it, for nodes one after another, what an open element
has taken in when they are read.

`read_skipped` concerns nodes in a skipped element: they are passed over, whatever they hold. By
`read_content`, if each node reads as what it means, then reading nodes is a fold over their
meanings. For open elements that look at nodes in one respect only (`Takes`), the fold is a fold
over what the nodes say in that respect.
-/

namespace Cityscape.Markup

/-! ## Where reading goes on -/

section
variable {g : Goal} (resolver : Resolver)

/-- Reading from an open element on, with nothing skipped. -/
def Focus.read (focus : Focus g) (rest : List Token) : Except LoadError (g.Result × List Token) :=
  Position.read resolver ⟨focus, 0⟩ rest

/-- Reading on behind a token; the result of a root element comes with the tokens left over. -/
def Progress.resume (rest : List Token) :
    Progress g → Except LoadError (g.Result × List Token)
  | .reading p => p.read resolver rest
  | .done result => .ok (result, rest)

/-- Reading on behind an element. -/
def Outcome.resume (rest : List Token) (o : Outcome g) :
    Except LoadError (g.Result × List Token) := o.progress.resume resolver rest

end

/-- What has been read of a switch, with one more arm. -/
def SwitchDraft.add (draft : SwitchDraft) : Arm → SwitchDraft
  | .case c => { draft with cases := draft.cases ++ [c] }
  | .default image => { draft with default := some image }

/-- What a node contributes to the open element that it stands in: what it means there, or nothing.
Only the root of a document must not be without meaning. -/
def Focus.absorb : {g : Goal} → Focus g → Meaning → Except LoadError (Outcome g)
  | _, focus, .text content => .ok (.inside (focus.addText content))
  | _, .holding .document, .element sense =>
    match sense.image with
    | some image => do return .done (← image)
    | none => .error (.unknownTag sense.tag)
  | _, .holding place, .element sense =>
    match sense.image with
    | some image => do place.receive (← image)
    | none => .ok (.inside (.holding place))
  | _, .sprite image around, .element _ => .ok (.inside (.sprite image around))
  | _, .switch draft around, .element sense =>
    match sense.arm with
    | some arm => do return .inside (.switch (draft.add (← arm)) around)
    | none => .ok (.inside (.switch draft around))
  | _, .animation draft around, .element sense =>
    match sense.frame with
    | some frame => do
      return .inside (.animation { draft with frames := draft.frames ++ [← frame] } around)
    | none => .ok (.inside (.animation draft around))
  | _, .prologue, .element sense => do return .done (← sense.tiles)
  | _, .tileSet set, .element sense =>
    match sense.tile with
    | some tile => do
      let (name, image) ← tile
      return .inside (.tileSet (set.insert name image))
    | none => .ok (.inside (.tileSet set))

section
variable {g : Goal} {resolver : Resolver}

/-- Reading begins with a step for the first token. -/
lemma Position.read_cons {p : Position g} {token rest} :
    p.read resolver (token :: rest) = p.step resolver token >>= Progress.resume resolver rest := by
  rw [Position.read]
  cases p.step resolver token with
  | error => rfl
  | ok progress => cases progress <;> rfl

/-- A text is added to what is read, and reading goes on behind it. -/
lemma Focus.read_text {focus : Focus g} {content rest} :
    focus.read resolver (.text content :: rest) = (focus.addText content).read resolver rest :=
  Position.read_cons

/-- The end of an element closes it, and reading goes on behind it. -/
lemma Focus.read_close {focus : Focus g} {rest} :
    focus.read resolver (.close :: rest) =
      focus.close resolver >>= Outcome.resume resolver rest := by
  rw [Focus.read, Position.read_cons]
  show (do return (← focus.close resolver).progress) >>= _ = _
  rw [bind_assoc]
  rfl

/-! ## Skipping -/

/-- Content that is skipped is passed over, node by node. -/
lemma read_skipped_of {content : List Node} {focus : Focus g} {k}
    (ih : ∀ n ∈ content, ∀ (k : Nat) (rest : List Token),
      Position.read resolver ⟨focus, k + 1⟩ (n.tokens ++ rest) =
        Position.read resolver ⟨focus, k + 1⟩ rest) (rest : List Token) :
    Position.read resolver ⟨focus, k + 1⟩ (Node.tokensOf content ++ rest) =
      Position.read resolver ⟨focus, k + 1⟩ rest := by
  induction content with
  | nil => rfl
  | cons n others ihs =>
    rw [Node.tokensOf, List.append_assoc, ih n List.mem_cons_self]
    exact ihs fun m hm => ih m (List.mem_cons_of_mem _ hm)

/-- A node inside a skipped element is passed over with all that it holds. -/
lemma read_skipped (n : Node) (focus : Focus g) (k : Nat) (rest : List Token) :
    Position.read resolver ⟨focus, k + 1⟩ (n.tokens ++ rest) =
      Position.read resolver ⟨focus, k + 1⟩ rest := by
  induction n using Node.induction generalizing k rest with
  | onText content => exact Position.read_cons
  | onElement name attributes content ih =>
    rw [Node.tokens, List.cons_append, Position.read_cons]
    cases content with
    | none => rfl
    | some content =>
      -- One more element is open inside, which is why the depth is not fixed in the induction.
      show Position.read resolver ⟨focus, k + 1 + 1⟩ _ = _
      rw [Node.tokensBehind, List.append_assoc]
      exact (read_skipped_of ih _).trans Position.read_cons

/-- Content that is skipped is passed over. -/
lemma read_skipped_content (content : List Node) (focus : Focus g) (k : Nat)
    (rest : List Token) :
    Position.read resolver ⟨focus, k + 1⟩ (Node.tokensOf content ++ rest) =
      Position.read resolver ⟨focus, k + 1⟩ rest :=
  read_skipped_of (fun n _ => read_skipped n focus) rest

/-! ## What nodes contribute together -/

/-- Reading a node takes in what it means and leaves what is behind it, wherever the node stands. -/
def Node.Reads (resolver : Resolver) (n : Node) : Prop :=
  ∀ {g : Goal} (focus : Focus g) (rest : List Token),
    focus.read resolver (n.tokens ++ rest) =
      focus.absorb (n.meaning resolver) >>= Outcome.resume resolver rest

/-- Content is read by taking in the meanings of its nodes, in reading order. -/
lemma read_content {σ : Type} {within : σ → Focus g} {step : σ → Meaning → Except LoadError σ}
    (absorbs : ∀ s m, (within s).absorb m = do return .inside (within (← step s m)))
    {content : List Node} (ih : ∀ n ∈ content, n.Reads resolver) (s : σ) (rest : List Token) :
    (within s).read resolver (Node.tokensOf content ++ rest) =
      (meaningsOf resolver content).foldlM step s >>= fun s => (within s).read resolver rest := by
  induction content generalizing s with
  | nil => rfl
  | cons n others ihs =>
    rw [Node.tokensOf, List.append_assoc, ih n List.mem_cons_self, absorbs, bind_assoc]
    rw [meaningsOf, List.foldlM_cons, bind_assoc]
    refine bind_congr fun next => ?_
    exact ihs (fun m hm => ih m (List.mem_cons_of_mem _ hm)) next

section
variable {σ α : Type} {part : Sense → Option (Except LoadError α)}

/-- Takes in what a node says in one respect. -/
def takeIn (part : Sense → Option (Except LoadError α)) (add : σ → α → Except LoadError σ)
    (s : σ) (m : Meaning) : Except LoadError σ :=
  match m.sense? part with
  | some result => do add s (← result)
  | none => .ok s

/-- What is taken in comes from the nodes that say something in the respect asked for. -/
lemma foldlM_takeIn {add : σ → α → Except LoadError σ} {s : σ} {ms : List Meaning} :
    ms.foldlM (takeIn part add) s =
      (ms.filterMap (Meaning.sense? part)).foldlM (fun s result => do add s (← result)) s := by
  rw [List.foldlM_filterMap]
  refine congrArg (fun f => ms.foldlM f s) (funext fun s => funext fun m => ?_)
  rw [takeIn]
  cases m.sense? part <;> rfl

/-- Results taken in one after another are first collected and then added up. -/
lemma foldlM_results {add : σ → α → σ} {s : σ} {results : List (Except LoadError α)} :
    results.foldlM (fun s result => do return add s (← result)) s =
      do return (← results.mapM id).foldl add s := by
  induction results generalizing s with
  | nil => rfl
  | cons result others ih =>
    rw [List.foldlM_cons, List.mapM_cons]
    cases result with
    | error => rfl
    | ok a =>
      show others.foldlM _ (add s a) = _
      rw [ih]
      cases others.mapM id <;> rfl

/-- Where adding never fails, what nodes say is first collected and then added up. -/
lemma foldlM_takeIn_ok {add : σ → α → σ} {s : σ} {ms : List Meaning} :
    ms.foldlM (takeIn part fun s a => .ok (add s a)) s =
      do return (← collect part ms).foldl add s :=
  foldlM_takeIn.trans foldlM_results

/-- Open elements that differ in what they have taken in: texts say nothing to them, and elements in
one respect only. -/
structure Takes (within : σ → Focus g) (part : Sense → Option (Except LoadError α))
    (add : σ → α → Except LoadError σ) : Prop where
  text : ∀ s content, (within s).addText content = within s
  element : ∀ s sense, (within s).absorb (.element sense) =
    match part sense with
    | some result => do return .inside (within (← add s (← result)))
    | none => .ok (.inside (within s))

/-- An open element reads its content by taking in what the nodes say in one respect. -/
lemma Takes.read_content {within : σ → Focus g} {add : σ → α → Except LoadError σ}
    (h : Takes within part add) {content : List Node} (ih : ∀ n ∈ content, n.Reads resolver)
    (s : σ) (rest : List Token) :
    (within s).read resolver (Node.tokensOf content ++ rest) =
      (meaningsOf resolver content).foldlM (takeIn part add) s >>= fun s =>
        (within s).read resolver rest := by
  refine Markup.read_content (fun s m => ?_) ih s rest
  cases m with
  | text content =>
    rw [Focus.absorb, h.text]
    rfl
  | element sense =>
    rw [h.element, takeIn, Meaning.sense?]
    cases part sense with
    | none => rfl
    | some result => cases result <;> rfl

end

/-- The last image is kept. -/
def keepLast (_ : Option TileImage) (image : TileImage) : Except LoadError (Option TileImage) :=
  .ok (some image)

/-- Of the images that nodes describe, the last one is kept. -/
lemma foldlM_keepLast {ms : List Meaning} :
    ms.foldlM (takeIn Sense.image keepLast) none = lastImage ms := by
  have last : ∀ (images : List TileImage) found,
      images.foldl (fun _ image => some image) found = images.getLast?.or found := by
    intro images
    induction images with
    | nil => exact fun _ => rfl
    | cons image others ih =>
      intro found
      rw [List.foldl_cons, ih, List.getLast?_cons]
      cases others.getLast? <;> rfl
  rw [lastImage]
  refine foldlM_takeIn_ok.trans (bind_congr fun images => ?_)
  rw [last, Option.or_none]

/-- A place of one image, from its first node to its end. -/
lemma Takes.read_held {within : Option TileImage → Focus g}
    (h : Takes within Sense.image keepLast) {tag : String} {next : TileImage → Outcome g}
    (closes : ∀ image, (within (some image)).close resolver = .ok (next image))
    (empty : (within none).close resolver = .error (.missingImage tag))
    {content : List Node} (ih : ∀ n ∈ content, n.Reads resolver) (rest : List Token) :
    (within none).read resolver (Node.tokensOf content ++ .close :: rest) =
      heldImage tag (meaningsOf resolver content) >>= fun image =>
        (next image).resume resolver rest := by
  rw [h.read_content ih, foldlM_keepLast, heldImage, bind_assoc]
  refine bind_congr fun found => ?_
  rw [Focus.read_close]
  cases found with
  | none =>
    rw [empty]
    rfl
  | some image =>
    rw [closes]
    rfl

end

end Cityscape.Markup
