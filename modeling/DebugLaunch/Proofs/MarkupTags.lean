import DebugLaunch.Proofs.ActionRuns

/-! Whether a marked up text can be shown is a matter of its tags alone: the text between them only
moves the places where styles begin. And the tags of a path with a plain file name behind it are
those of the path, so that two lines about files of one directory can both be shown or neither. -/
namespace DebugLaunch.MarkupTags
open Display Display.Markup

/-- The bodies of the tags among some parts. -/
def bodies (parts : List Part) : List Text :=
  parts.filterMap fun
    | .plain _ => none
    | .tag body => some body

/-- The bodies of the tags of a text, from left to right. -/
def tags (text : Text) : List Text := bodies (parts text)

/-- A marked up text can be shown. -/
def Renders (text : Text) : Prop := ∃ shown, render text = .ok shown

/-- A line can be said on a screen exactly if it can be shown. -/
theorem said_iff_renders {console : Console} {markup : Text} :
    Action.said (some console) markup = .ok () ↔ Renders markup := by
  rw [Action.said, Renders]
  cases render markup with
  | error fault =>
    refine iff_of_false (fun same => ?_) (by simp)
    cases same
  | ok shown => exact iff_of_true rfl ⟨shown, rfl⟩

private theorem map_eq_map {ε α β : Type} {f : α → β} {first second : Except ε α}
    (same : first.map f = second.map f) :
    (∃ fault, first = .error fault ∧ second = .error fault) ∨
      ∃ one other, first = .ok one ∧ second = .ok other ∧ f one = f other := by
  cases first with
  | error fault =>
    cases second with
    | error other => exact .inl ⟨fault, rfl, congrArg Except.error (Except.error.inj same).symm⟩
    | ok other => cases same
  | ok one =>
    cases second with
    | error other => cases same
    | ok other => exact .inr ⟨one, other, rfl, rfl, Except.ok.inj same⟩

/-! ### What rendering takes from the text between tags -/

private def bareOpen (style : Open) : Open := { style with start := 0 }

private def bareSpan (span : Span) : Span := { span with start := 0 }

/-- A rendering without what it shows and without the places where its styles begin. -/
private def bare (rendering : Rendering) : Rendering :=
  ⟨[], rendering.opened.map bareOpen, rendering.spans.map bareSpan⟩

private theorem closeNamed?_bare (name : Text) (opened : List Open) :
    closeNamed? name (opened.map bareOpen) =
      (closeNamed? name opened).map fun (style, left) => (bareOpen style, left.map bareOpen) := by
  induction opened with
  | nil => rfl
  | cons style rest ih =>
    simp only [List.map_cons, closeNamed?, ih, bareOpen]
    split
    · rfl
    · cases closeNamed? name rest <;> rfl

private theorem closed?_bare (opened : List Open) (body : Text) :
    closed? (opened.map bareOpen) body = (closed? opened body).map fun found =>
      found.map fun (style, left) => (bareOpen style, left.map bareOpen) := by
  unfold closed?
  dsimp only
  split
  · cases opened <;> rfl
  · cases normalName (Text.strip (Text.breakAt (· = '=') body).1) with
    | error fault => rfl
    | ok name => exact congrArg Except.ok (closeNamed?_bare name opened)

private theorem close_bare (style : Open) :
    (bareOpen style).close = style.close.map fun span => span.map bareSpan := by
  obtain ⟨start, name, parameters⟩ := style
  simp only [Open.close, bareOpen]
  split
  · split <;> rfl
  · rfl
  · rfl
  · rfl

private theorem ofBody_bare (start other : Nat) (body : Text) :
    (Open.ofBody start body).map bareOpen = (Open.ofBody other body).map bareOpen := by
  unfold Open.ofBody
  split <;> cases normalName _ <;> rfl

private def addTag (rendering : Rendering) (body : Text) : Except MarkupFault Rendering :=
  rendering.add (.tag body)

/-- A tag does to a bare rendering what it does to the rendering. -/
private theorem add_bare (rendering : Rendering) (body : Text) :
    (addTag (bare rendering) body).map bare = (addTag rendering body).map bare := by
  unfold addTag Rendering.add
  split
  · rename_i text same
    cases same
  · rename_i inner same
    cases same
    simp only [bare, closed?_bare]
    cases closed? rendering.opened inner with
    | error fault => rfl
    | ok found =>
      cases found with
      | none => rfl
      | some closed =>
        obtain ⟨style, left⟩ := closed
        simp only [Except.map, Option.map_some, bind, Except.bind, close_bare]
        cases style.close with
        | error fault => rfl
        | ok span => cases span <;> simp [bare, Function.comp_def, bareOpen, bareSpan]
  · rename_i same
    cases same
    rcases map_eq_map (ofBody_bare (bare rendering).shown.length rendering.shown.length body) with
      ⟨fault, bareOpens, opens⟩ | ⟨style, other, bareOpens, opens, alike⟩
    · rw [bareOpens, opens]
      rfl
    · rw [bareOpens, opens]
      have openTwice : bareOpen ∘ bareOpen = bareOpen := rfl
      have spanTwice : bareSpan ∘ bareSpan = bareSpan := rfl
      simp only [bind, Except.bind, Except.map, bare, List.map_cons, List.map_map, alike, openTwice,
        spanTwice]

private theorem add_congr {first second : Rendering} (same : bare first = bare second)
    (body : Text) : (addTag first body).map bare = (addTag second body).map bare := by
  rw [← add_bare, same, add_bare]

/-- Parts are added like their tags, up to places and plain text. -/
private theorem foldlM_bodies {first second : Rendering} (same : bare first = bare second)
    (parts : List Part) :
    (parts.foldlM Rendering.add first).map bare =
      ((bodies parts).foldlM addTag second).map bare := by
  induction parts generalizing first second with
  | nil => exact congrArg Except.ok same
  | cons part rest ih =>
    cases part with
    | plain text => exact ih same
    | tag body =>
      show ((addTag first body >>= fun next => rest.foldlM Rendering.add next).map bare) =
        (addTag second body >>= fun next => (bodies rest).foldlM addTag next).map bare
      rcases map_eq_map (add_congr same body) with
        ⟨fault, firstAdds, secondAdds⟩ | ⟨next, other, firstAdds, secondAdds, alike⟩
      · rw [firstAdds, secondAdds]
        rfl
      · rw [firstAdds, secondAdds]
        exact ih alike

/-- The names of all styles that are applied, in no particular order. -/
private def styles (rendering : Rendering) : List Text :=
  (rendering.opened.filterMap Open.left).map Span.style ++ rendering.spans.map Span.style

private theorem styles_bare (rendering : Rendering) :
    styles (bare rendering) = styles rendering := by
  have left : ∀ style : Open, (bareOpen style).left.map Span.style = style.left.map Span.style := by
    rintro ⟨start, name, _ | parameters⟩ <;>
      simp only [Open.left, bareOpen] <;> split <;> simp_all
  have spans : Span.style ∘ bareSpan = Span.style := rfl
  simp only [styles, bare, List.map_filterMap, List.filterMap_map, List.map_map, spans,
    Function.comp_def, left]

private theorem styles_perm (rendering : Rendering) :
    (rendering.allSpans.map Span.style).Perm (styles rendering) := by
  refine ((List.mergeSort_perm _ _).map Span.style).trans ?_
  rw [List.map_append, styles]
  exact ((List.reverse_perm _).map Span.style).append_right _

/-- The styles of a rendering can all be read. -/
private def Sound (rendering : Rendering) : Prop :=
  ∀ name ∈ styles rendering, ∃ style, Style.ofText? name = .ok style

private theorem forM_eq_ok {spans : List Span} {check : Span → Except MarkupFault Unit} :
    spans.forM check = .ok () ↔ ∀ span ∈ spans, check span = .ok () := by
  induction spans with
  | nil => simp [List.forM, pure, Except.pure]
  | cons span rest ih =>
    show (check span >>= fun _ => rest.forM check) = _ ↔ _
    rw [List.forall_mem_cons, ← ih]
    cases check span <;> simp [bind, Except.bind]

private theorem renders_iff_rendering {text : Text} :
    Renders text ↔ ∃ rendering, (parts text).foldlM Rendering.add {} = .ok rendering ∧
      Sound rendering := by
  have check_iff : ∀ span : Span, (do
      let _ ← (Style.ofText? span.style).mapError MarkupFault.component
      .ok () : Except MarkupFault Unit) = .ok () ↔
        ∃ style, Style.ofText? span.style = .ok style := by
    intro span
    cases Style.ofText? span.style with
    | error fault =>
      refine iff_of_false (fun checks => ?_) (by simp)
      cases checks
    | ok style => exact iff_of_true rfl ⟨style, rfl⟩
  rw [Renders, render]
  cases (parts text).foldlM Rendering.add {} with
  | error fault => simp [bind, Except.bind]
  | ok rendering =>
    have sound : Sound rendering ↔ rendering.allSpans.forM (fun span => do
        let _ ← (Style.ofText? span.style).mapError MarkupFault.component
        .ok ()) = .ok () := by
      simp only [forM_eq_ok, check_iff, Sound, ← (styles_perm rendering).mem_iff,
        List.forall_mem_map]
    simp only [Except.ok.injEq, exists_eq_left', sound]
    show (∃ shown, (rendering.allSpans.forM _ >>= fun _ => Except.ok rendering.shown) =
      .ok shown) ↔ _
    cases rendering.allSpans.forM (fun span => do
        let _ ← (Style.ofText? span.style).mapError MarkupFault.component
        .ok ()) <;> simp [bind, Except.bind]

/-- A text can be shown if its tags can be added, one behind the other, and all their styles can be
read. -/
private theorem renders_iff_tags {text : Text} :
    Renders text ↔ ∃ rendering, (tags text).foldlM addTag {} = .ok rendering ∧ Sound rendering := by
  have alike := foldlM_bodies (rfl : bare {} = bare {}) (parts text)
  rw [renders_iff_rendering, tags]
  rcases map_eq_map alike with ⟨fault, one, other⟩ | ⟨one, other, adds, addsTags, equal⟩
  · simp [one, other]
  · have sound : Sound one ↔ Sound other := by
      rw [Sound, Sound, ← styles_bare one, equal, styles_bare]
    simp [adds, addsTags, sound]

/-- Two texts with the same tags can both be shown, or neither can. -/
theorem renders_congr {first second : Text} (same : tags first = tags second) :
    Renders first ↔ Renders second := by
  rw [renders_iff_tags, renders_iff_tags, same]

/-! ### The tags of a text, read from its front -/

private theorem bodies_partsFrom (plain text : Text) :
    bodies (partsFrom plain text) = tags text := by
  have independent : ∀ first second : Text,
      bodies (partsFrom first text) = bodies (partsFrom second text) := by
    clear plain
    induction text with
    | nil =>
      intro first second
      simp [partsFrom, bodies]
    | cons c rest ih =>
      intro first second
      rw [partsFrom, partsFrom]
      split
      · split
        · rfl
        · exact ih _ _
      · exact ih _ _
  exact independent plain []

private theorem tags_nil : tags [] = [] := by
  simp [tags, parts, partsFrom, bodies]

private theorem tags_ordinary {c : Char} (ordinary : c ≠ '[' ∧ c ≠ '\\') (rest : Text) :
    tags (c :: rest) = tags rest := by
  rw [tags, parts, partsFrom, if_neg (by simp [ordinary]), bodies_partsFrom]

private theorem tags_special {c : Char} (special : c = '[' ∨ c = '\\') (rest : Text) :
    tags (c :: rest) = match takeMarked? (c :: rest) with
      | some (slashes, body, behind) => (if slashes % 2 = 1 then [] else [body]) ++ tags behind
      | none => tags rest := by
  rw [tags, parts, partsFrom, if_pos (by simpa [or_comm] using special)]
  split
  · rename_i slashes body behind marked
    rw [marked]
    by_cases odd : slashes % 2 = 1 <;> simp [bodies, odd, tags, parts]
  · rename_i unmarked
    rw [unmarked]
    exact bodies_partsFrom [c] rest

/-- A text without brackets and backslashes. -/
def Plain (text : Text) : Prop := ∀ c ∈ text, c ≠ '[' ∧ c ≠ ']' ∧ c ≠ '\\'

instance (text : Text) : Decidable (Plain text) := List.decidableBAll _ text

private theorem tags_plain_append {text : Text} (plain : Plain text) (rest : Text) :
    tags (text ++ rest) = tags rest := by
  induction text with
  | nil => rfl
  | cons c text ih =>
    have ordinary := plain c (List.mem_cons_self ..)
    rw [List.cons_append, tags_ordinary ⟨ordinary.1, ordinary.2.2⟩,
      ih fun d inside => plain d (List.mem_cons_of_mem _ inside)]

/-- A text that breaks breaks there too with more behind it. -/
private theorem breakAt_append_of_some {stop : Char → Bool} {text front rest : Text} {c : Char}
    (broken : Text.breakAt stop text = (front, c :: rest)) (more : Text) :
    Text.breakAt stop (text ++ more) = (front, c :: rest ++ more) := by
  obtain ⟨rfl, free, stops⟩ := Text.of_breakAt broken
  rw [List.append_assoc, List.cons_append]
  exact Text.breakAt_of_stop free (stops c rfl)

/-- A text ends here, or a bracket opens. -/
private def Opens (rest : Text) : Prop := ∀ c ∈ rest.head?, c = '['

private theorem takeTag?_unclosed {first : Char} {text rest : Text} (opens : Opens rest)
    (free : ∀ d ∈ text, (d = ']' || d = '[' : Bool) = false) :
    takeTag? (first :: (text ++ rest)) = none := by
  rw [takeTag?]
  split
  · cases rest with
    | nil => rw [List.append_nil, Text.breakAt_of_free free]
    | cons c rest =>
      obtain rfl := opens c rfl
      rw [Text.breakAt_of_stop free (by simp)]
      simp
  · rfl

/-- A tag is closed in front of plain text or not at all, if nothing but a bracket stands behind
that text. -/
private theorem takeTag?_append (front : Text) {text rest : Text} (nonempty : text ≠ [])
    (plain : Plain text) (opens : Opens rest) :
    takeTag? (front ++ (text ++ rest)) =
      (takeTag? front).map fun (body, behind) => (body, behind ++ (text ++ rest)) := by
  have passed : ∀ {text : Text}, Plain text → ∀ d ∈ text, (d = ']' || d = '[' : Bool) = false := by
    intro text plain d inside
    simp [plain d inside]
  cases front with
  | nil =>
    cases text with
    | nil => exact absurd rfl nonempty
    | cons first text =>
      have textPlain : Plain text := fun d inside => plain d (List.mem_cons_of_mem _ inside)
      exact takeTag?_unclosed opens (passed textPlain)
  | cons first front =>
    cases broken : Text.breakAt (fun c => c = ']' || c = '[') front with
    | mk body behind =>
      cases behind with
      | nil =>
        obtain ⟨whole, free, _⟩ := Text.of_breakAt broken
        rw [List.append_nil] at whole
        subst whole
        have freeBehind : ∀ d ∈ front ++ text, (d = ']' || d = '[' : Bool) = false := by
          rw [List.forall_mem_append]
          exact ⟨free, passed plain⟩
        have alone : takeTag? (first :: (front ++ [])) = none :=
          takeTag?_unclosed (by simp [Opens]) free
        rw [List.append_nil] at alone
        rw [alone, List.cons_append, ← List.append_assoc, takeTag?_unclosed opens freeBehind]
        rfl
      | cons c behind =>
        simp only [List.cons_append, takeTag?, breakAt_append_of_some broken, broken]
        split
        · by_cases closes : c = ']'
          · subst closes
            rfl
          · simp [closes]
        · rfl

private theorem takeMarked?_append (front : Text) {text rest : Text} (nonempty : text ≠ [])
    (plain : Plain text) (opens : Opens rest) :
    takeMarked? (front ++ (text ++ rest)) = (takeMarked? front).map fun (slashes, body, behind) =>
      (slashes, body, behind ++ (text ++ rest)) := by
  unfold takeMarked?
  cases broken : Text.breakAt (· != '\\') front with
  | mk slashes behind =>
    cases behind with
    | nil =>
      obtain ⟨whole, free, _⟩ := Text.of_breakAt broken
      rw [List.append_nil] at whole
      subst whole
      cases text with
      | nil => exact absurd rfl nonempty
      | cons first text =>
        have ordinary := plain first (List.mem_cons_self ..)
        rw [List.cons_append, Text.breakAt_of_stop free (by simpa using ordinary.2.2)]
        simp [ordinary.1]
    | cons c behind =>
      rw [breakAt_append_of_some broken]
      by_cases bracket : c = '['
      · subst bracket
        simp only [List.cons_append, takeTag?_append behind nonempty plain opens, Option.map_map]
        cases takeTag? behind <;> rfl
      · simp [bracket]

/-- The tags in front of plain text and those behind it do not mix. -/
private theorem tags_append (front : Text) {text rest : Text} (nonempty : text ≠ [])
    (plain : Plain text) (opens : Opens rest) :
    tags (front ++ (text ++ rest)) = tags front ++ tags rest := by
  match front with
  | [] => rw [List.nil_append, tags_plain_append plain, tags_nil, List.nil_append]
  | c :: front =>
    have later := tags_append front nonempty plain opens
    by_cases special : c = '[' ∨ c = '\\'
    · rw [List.cons_append, tags_special special, tags_special special, ← List.cons_append,
        takeMarked?_append _ nonempty plain opens]
      cases marked : takeMarked? (c :: front) with
      | none => exact later
      | some found =>
        obtain ⟨slashes, body, behind⟩ := found
        have shorter := length_of_takeMarked? marked
        simp only [Option.map_some, List.append_assoc,
          tags_append behind nonempty plain opens]
    · rw [not_or] at special
      rw [List.cons_append, tags_ordinary special, tags_ordinary special, later]
termination_by front.length
decreasing_by
  · simp
  · exact shorter

private theorem tags_opening {tag : Text} (opens : tag.head?.any opensTag)
    (plain : Plain tag) (rest : Text) : tags ('[' :: tag ++ ']' :: rest) = tag :: tags rest := by
  cases tag with
  | nil => cases opens
  | cons first tag =>
    have free : ∀ d ∈ tag, (d = ']' || d = '[' : Bool) = false := by
      intro d inside
      simp [plain d (List.mem_cons_of_mem _ inside)]
    have taken : takeTag? (first :: tag ++ ']' :: rest) = some (first :: tag, rest) := by
      rw [List.cons_append, takeTag?, if_pos (by simpa using opens),
        Text.breakAt_of_stop free (by simp)]
      rfl
    have marked : takeMarked? ('[' :: first :: tag ++ ']' :: rest) =
        some (0, first :: tag, rest) := by
      have broken : Text.breakAt (· != '\\') ('[' :: first :: tag ++ ']' :: rest) =
          ([], '[' :: (first :: tag ++ ']' :: rest)) := by
        simp [Text.breakAt]
      rw [takeMarked?, broken]
      simp only [taken]
      rfl
    rw [List.cons_append, tags_special (.inl rfl), ← List.cons_append, marked]
    rfl

/-- The tags of a line are its own tag, and behind it those of the text and the closing one. -/
private theorem tags_tagged {tag : String} (opens : tag.toList.head?.any opensTag)
    (tagPlain : Plain tag.toList) {front : Text} (frontPlain : Plain front) (text : Text) :
    tags (Action.tagged tag (front ++ text)) =
      tag.toList :: tags (text ++ '[' :: ('/' :: tag.toList ++ [']'])) := by
  have whole : Action.tagged tag (front ++ text) = '[' :: tag.toList ++
      ']' :: (front ++ (text ++ '[' :: ('/' :: tag.toList ++ [']']))) := by
    simp [Action.tagged]
  rw [whole, tags_opening opens tagPlain, tags_plain_append frontPlain]

/-- Two lines that differ in plain text only, in front of something and behind it, can both be shown
or neither can. -/
theorem renders_tagged_congr {tag : String} (opens : tag.toList.head?.any opensTag)
    (tagPlain : Plain tag.toList) (middle : Text) {front otherFront behind otherBehind : Text}
    (frontPlain : Plain front) (otherFrontPlain : Plain otherFront) (behindPlain : Plain behind)
    (otherBehindPlain : Plain otherBehind) (nonempty : behind ≠ [])
    (otherNonempty : otherBehind ≠ []) :
    Renders (Action.tagged tag (front ++ middle ++ behind)) ↔
      Renders (Action.tagged tag (otherFront ++ middle ++ otherBehind)) := by
  apply renders_congr
  rw [List.append_assoc, List.append_assoc, tags_tagged opens tagPlain frontPlain,
    tags_tagged opens tagPlain otherFrontPlain, List.append_assoc, List.append_assoc,
    tags_append middle nonempty behindPlain (by simp [Opens]),
    tags_append middle otherNonempty otherBehindPlain (by simp [Opens])]

/-! ### Tags that only give a style -/

/-- A tag that is its own normal name and gives a style that can be read. -/
structure StyleTag (tag : Text) : Prop where
  opens : tag.head?.any opensTag
  letter : ∀ c ∈ tag.head?, c ≠ '/' ∧ c ≠ '@'
  plain : Plain tag
  unvalued : '=' ∉ tag
  stripped : Text.strip tag = tag
  normal : normalName tag = .ok tag
  reads : ∃ style, Style.ofText? tag = .ok style

/-- A word that can name no style but a colour, and has no components. -/
private structure ColourWord (word : Text) : Prop where
  stripped : Text.strip word = word
  words : Text.words word = [word]
  lower : Text.lower word = word
  other : word ≠ "none".toList ∧ word ≠ "on".toList ∧ word ≠ "not".toList ∧ word ≠ "link".toList
  noEffect : Effect.ofName? word = none
  noComponents : Colour.arguments? "rgb".toList word = none

/-- A colour without components is known or not; reading it is no fault. -/
private theorem normal?_of_no_components (text : Text)
    (noComponents : Colour.arguments? "rgb".toList (Text.lower text) = none) :
    Colour.normal? text = .ok (some (Text.lower text)) ∨ Colour.normal? text = .ok none := by
  simp only [Colour.normal?, Colour.isComponents, noComponents, bind, Except.bind]
  split
  · exact .inl rfl
  · exact .inr rfl

private theorem ofText?_colourWord {word : Text} (isWord : ColourWord word) :
    Style.ofText? word = .ok (some { colour := some word }) ∨ Style.ofText? word = .ok none := by
  obtain ⟨noNone, noOn, noNot, noLink⟩ := isWord.other
  rw [Style.ofText?, isWord.stripped, if_neg noNone, isWord.words, Style.addWords?, isWord.lower]
  dsimp only
  rw [if_neg noOn, if_neg noNot, if_neg noLink, isWord.noEffect]
  dsimp only
  have noComponents := isWord.lower.symm ▸ isWord.noComponents
  rcases normal?_of_no_components word noComponents with normal | normal
  · rw [normal, isWord.lower]
    exact .inl rfl
  · rw [normal]
    exact .inr rfl

/-- Whether or not the table of colours has it, such a word is its own normal name. -/
private theorem normalName_colourWord {word : Text} (isWord : ColourWord word) :
    normalName word = .ok word := by
  have same : Style.normalName word = .ok word := by
    rw [Style.normalName]
    rcases ofText?_colourWord isWord with style | style
    · rw [style]
      simp [Style.toText, Style.switchWords, Effect.all, bind, Except.bind, Text.join]
    · rw [style]
      exact congrArg Except.ok (isWord.stripped.symm ▸ isWord.lower)
  rw [normalName, same]
  rfl

private theorem colourWord_green : ColourWord "green".toList :=
  ⟨by decide +kernel, by decide +kernel, by decide +kernel, by decide, by decide +kernel,
    by decide +kernel⟩

private theorem colourWord_red : ColourWord "red".toList :=
  ⟨by decide +kernel, by decide +kernel, by decide +kernel, by decide, by decide +kernel,
    by decide +kernel⟩

/-- A colour is read, known or not. -/
private theorem reads_colourWord {word : Text} (isWord : ColourWord word) :
    ∃ style, Style.ofText? word = .ok style := by
  rcases ofText?_colourWord isWord with style | style
  · exact ⟨_, style⟩
  · exact ⟨_, style⟩

theorem styleTag_dim : StyleTag "dim".toList :=
  ⟨by decide, by simp, by decide, by decide, by decide, rfl, ⟨_, rfl⟩⟩

theorem styleTag_green : StyleTag "green".toList :=
  ⟨by decide, by simp, by decide, by decide, colourWord_green.stripped,
    normalName_colourWord colourWord_green, reads_colourWord colourWord_green⟩

theorem styleTag_red : StyleTag "red".toList :=
  ⟨by decide, by simp, by decide, by decide, colourWord_red.stripped,
    normalName_colourWord colourWord_red, reads_colourWord colourWord_red⟩

private theorem of_closeNamed? {name : Text} {opened left : List Open} {style : Open}
    (closes : closeNamed? name opened = some (style, left)) :
    style ∈ opened ∧ style.name = name ∧ ∀ other ∈ left, other ∈ opened := by
  induction opened generalizing left with
  | nil => cases closes
  | cons first rest ih =>
    rw [closeNamed?] at closes
    split at closes
    · rename_i called
      cases closes
      exact ⟨List.mem_cons_self .., called, fun other => List.mem_cons_of_mem _⟩
    · obtain ⟨⟨found, others⟩, closesRest, same⟩ := Option.map_eq_some_iff.mp closes
      cases same
      obtain ⟨member, called, stay⟩ := ih closesRest
      refine ⟨List.mem_cons_of_mem _ member, called, fun other inside => ?_⟩
      rcases List.mem_cons.mp inside with rfl | inside
      · exact List.mem_cons_self ..
      · exact List.mem_cons_of_mem _ (stay other inside)

namespace StyleTag
variable {tag : Text}

private theorem unparted (isStyle : StyleTag tag) : Text.breakAt (· = '=') tag = (tag, []) :=
  Text.breakAt_of_free (Text.passes_iff.mpr isStyle.unvalued)

private theorem something (isStyle : StyleTag tag) : tag ≠ [] := by
  rintro rfl
  cases isStyle.opens

private theorem add_opening (isStyle : StyleTag tag) (rendering : Rendering) :
    addTag rendering tag = .ok
      { rendering with opened := ⟨rendering.shown.length, tag, none⟩ :: rendering.opened } := by
  cases tag with
  | nil => exact absurd rfl isStyle.something
  | cons c rest =>
    have unparted := isStyle.unparted
    simp [addTag, Rendering.add, Open.ofBody, (isStyle.letter c rfl).1, unparted, isStyle.normal,
      bind, Except.bind]

/-- A style that is called like the tag applies to the same part closed or left open. -/
private theorem close_eq_left (isStyle : StyleTag tag) {style : Open} (called : style.name = tag) :
    ∃ span, style.close = .ok (some span) ∧ style.left = some span := by
  obtain ⟨start, name, parameters⟩ := style
  obtain rfl : name = tag := called
  cases name with
  | nil => exact absurd rfl isStyle.something
  | cons c rest =>
    have letter := (isStyle.letter c rfl).2
    cases parameters <;> simp [Open.close, Open.left, letter]

private theorem add_closing (isStyle : StyleTag tag) {rendering : Rendering} {style : Open}
    {left : List Open} (closes : closeNamed? tag rendering.opened = some (style, left)) :
    ∃ span, style.left = some span ∧ addTag rendering ('/' :: tag) =
      .ok { rendering with opened := left, spans := span :: rendering.spans } := by
  obtain ⟨span, close, leaves⟩ := isStyle.close_eq_left (of_closeNamed? closes).2.1
  refine ⟨span, leaves, ?_⟩
  simp [addTag, Rendering.add, closed?, isStyle.unparted, isStyle.stripped, isStyle.something,
    isStyle.normal, closes, close, bind, Except.bind]

end StyleTag

private theorem add_nothing (rendering : Rendering) :
    rendering.add (.plain []) = .ok rendering := by
  have shownNothing : shown [] = [] := by decide +kernel
  simp [Rendering.add, shownNothing]

/-- A tag that only gives a style opens it and closes it again; the text in between is shown. -/
theorem render_between {tag : String} {text : Text} (isStyle : StyleTag tag.toList)
    (split : parts (Action.tagged tag text) = [.plain [], .plain [], .tag tag.toList, .plain text,
      .plain [], .tag ('/' :: tag.toList), .plain []]) :
    render (Action.tagged tag text) = .ok (shown text) := by
  have opens : Rendering.add {} (.tag tag.toList) = .ok { opened := [⟨0, tag.toList, none⟩] } :=
    isStyle.add_opening {}
  have between : Rendering.add { opened := [⟨0, tag.toList, none⟩] } (.plain text) =
      .ok { shown := shown text, opened := [⟨0, tag.toList, none⟩] } := by
    simp [Rendering.add]
  have closesStyle : closeNamed? tag.toList [⟨0, tag.toList, none⟩] =
      some (⟨0, tag.toList, none⟩, []) := by
    simp [closeNamed?]
  obtain ⟨span, leaves, closes⟩ := @StyleTag.add_closing _ isStyle
    { shown := shown text, opened := [⟨0, tag.toList, none⟩] } _ _ closesStyle
  obtain rfl : ⟨0, tag.toList⟩ = span := by simpa [Open.left, isStyle.something] using leaves
  have closesPart : Rendering.add { shown := shown text, opened := [⟨0, tag.toList, none⟩] }
      (.tag ('/' :: tag.toList)) = .ok { shown := shown text, spans := [⟨0, tag.toList⟩] } := closes
  obtain ⟨style, named⟩ := isStyle.reads
  have checked : (Style.ofText? tag.toList).mapError MarkupFault.component = .ok style := by
    rw [named]
    rfl
  rw [render, split]
  simp [add_nothing, opens, between, closesPart, Rendering.allSpans, checked, bind, Except.bind,
    pure, Except.pure]

/-- A tag that only gives a style is not shown itself, also where it is never closed. -/
theorem render_unclosed {tag : String} {text : Text} (isStyle : StyleTag tag.toList)
    (split : parts ('[' :: tag.toList ++ ']' :: text) =
      [.plain [], .plain [], .tag tag.toList, .plain text]) :
    render ('[' :: tag.toList ++ ']' :: text) = .ok (shown text) := by
  have opens : Rendering.add {} (.tag tag.toList) = .ok { opened := [⟨0, tag.toList, none⟩] } :=
    isStyle.add_opening {}
  have behind : Rendering.add { opened := [⟨0, tag.toList, none⟩] } (.plain text) =
      .ok { shown := shown text, opened := [⟨0, tag.toList, none⟩] } := by
    simp [Rendering.add]
  have left : Open.left ⟨0, tag.toList, none⟩ = some ⟨0, tag.toList⟩ := by
    simp [Open.left, isStyle.something]
  obtain ⟨style, named⟩ := isStyle.reads
  have checked : (Style.ofText? tag.toList).mapError MarkupFault.component = .ok style := by
    rw [named]
    rfl
  rw [render, split]
  simp [add_nothing, opens, behind, left, Rendering.allSpans, checked, bind, Except.bind, pure,
    Except.pure]

theorem renders_dim : Renders (Action.tagged "dim" []) :=
  ⟨_, render_between styleTag_dim (by decide +kernel)⟩

theorem renders_green : Renders (Action.tagged "green" []) :=
  ⟨_, render_between styleTag_green (by decide +kernel)⟩

/-- A red text is shown as it would be without its colour. -/
theorem render_red {text : Text} (split : parts (Action.tagged "red" text) =
      [.plain [], .plain [], .tag "red".toList, .plain text, .plain [], .tag "/red".toList,
        .plain []]) : render (Action.tagged "red" text) = .ok (shown text) :=
  render_between styleTag_red split

/-! ### Lines around a text that can be shown -/

/-- There is nothing to stumble over in plain text. -/
theorem renders_of_plain {text : Text} (plain : Plain text) : Renders text := by
  have none : tags text = [] := by
    rw [← List.append_nil text, tags_plain_append plain, tags_nil]
  rw [renders_iff_tags, none]
  exact ⟨{}, rfl, by simp [Sound, styles]⟩

private theorem closeNamed?_append {name : Text} {opened left : List Open} {style : Open}
    (closes : closeNamed? name opened = some (style, left)) (base : List Open) :
    closeNamed? name (opened ++ base) = some (style, left ++ base) := by
  induction opened generalizing left with
  | nil => cases closes
  | cons first rest ih =>
    rw [closeNamed?] at closes
    rw [List.cons_append, closeNamed?]
    by_cases called : first.name = name
    · rw [if_pos called] at closes ⊢
      cases closes
      rfl
    · rw [if_neg called] at closes ⊢
      obtain ⟨⟨found, others⟩, closesRest, same⟩ := Option.map_eq_some_iff.mp closes
      cases same
      rw [ih closesRest]
      rfl

private theorem closed?_append {body : Text} {opened left : List Open} {style : Open}
    (closes : closed? opened body = .ok (some (style, left))) (base : List Open) :
    closed? (opened ++ base) body = .ok (some (style, left ++ base)) := by
  unfold closed? at closes ⊢
  dsimp only at closes ⊢
  by_cases nameless : Text.strip (Text.breakAt (· = '=') body).1 = []
  · rw [if_pos nameless] at closes ⊢
    cases opened with
    | nil => cases closes
    | cons first rest =>
      cases closes
      rfl
  · rw [if_neg nameless] at closes ⊢
    cases normal : normalName (Text.strip (Text.breakAt (· = '=') body).1) with
    | error fault =>
      rw [normal] at closes
      cases closes
    | ok name =>
      rw [normal] at closes
      exact congrArg Except.ok (closeNamed?_append (Except.ok.inj closes) base)

/-- A rendering above styles that were opened before. -/
private def above (base : List Open) (rendering : Rendering) : Rendering :=
  { rendering with opened := rendering.opened ++ base }

/-- What can be added does not come down to the styles below. -/
private theorem addTag_above (base : List Open) {rendering next : Rendering} {body : Text}
    (adds : addTag rendering body = .ok next) :
    addTag (above base rendering) body = .ok (above base next) := by
  unfold addTag Rendering.add at adds ⊢
  split at adds
  · rename_i same
    cases same
  · rename_i inner same
    cases same
    cases closes : closed? rendering.opened inner with
    | error fault =>
      rw [closes] at adds
      cases adds
    | ok found =>
      rw [closes] at adds
      cases found with
      | none => cases adds
      | some closed =>
        obtain ⟨style, left⟩ := closed
        have closesAbove := closed?_append closes base
        simp only [bind, Except.bind, above, closesAbove] at adds ⊢
        cases close : style.close with
        | error fault =>
          rw [close] at adds
          cases adds
        | ok span =>
          rw [close] at adds
          cases adds
          rfl
  · rename_i same
    cases same
    simp only [bind, Except.bind, above] at adds ⊢
    cases opens : Open.ofBody rendering.shown.length body with
    | error fault =>
      rw [opens] at adds
      cases adds
    | ok style =>
      rw [opens] at adds
      cases adds
      rfl

private theorem foldlM_above (base : List Open) {rendering last : Rendering} {names : List Text}
    (adds : names.foldlM addTag rendering = .ok last) :
    names.foldlM addTag (above base rendering) = .ok (above base last) := by
  induction names generalizing rendering with
  | nil =>
    cases adds
    rfl
  | cons body rest ih =>
    rw [List.foldlM_cons] at adds ⊢
    cases first : addTag rendering body with
    | error fault =>
      rw [first] at adds
      cases adds
    | ok next =>
      rw [first] at adds
      rw [addTag_above base first]
      exact ih adds

private theorem exists_closeNamed? {name : Text} {opened : List Open} {style : Open}
    (member : style ∈ opened) (called : style.name = name) :
    ∃ found left, closeNamed? name opened = some (found, left) := by
  induction opened with
  | nil => cases member
  | cons first rest ih =>
    rw [closeNamed?]
    by_cases same : first.name = name
    · exact ⟨first, rest, if_pos same⟩
    · rw [if_neg same]
      rcases List.mem_cons.mp member with rfl | later
      · exact absurd called same
      · obtain ⟨found, left, closes⟩ := ih later
        exact ⟨found, first :: left, by rw [closes]; rfl⟩

private theorem sound_iff {rendering : Rendering} : Sound rendering ↔
    (∀ style ∈ rendering.opened, ∀ span ∈ style.left,
      ∃ read, Style.ofText? span.style = .ok read) ∧
      ∀ span ∈ rendering.spans, ∃ read, Style.ofText? span.style = .ok read := by
  simp only [Sound, styles, List.mem_append, List.mem_map, List.mem_filterMap, Option.mem_def]
  constructor
  · intro sound
    exact ⟨fun style member span leaves => sound _ (.inl ⟨span, ⟨style, member, leaves⟩, rfl⟩),
      fun span member => sound _ (.inr ⟨span, member, rfl⟩)⟩
  · rintro ⟨opened, spans⟩ _ (⟨span, ⟨style, member, leaves⟩, rfl⟩ | ⟨span, member, rfl⟩)
    · exact opened style member span leaves
    · exact spans span member

/-- What tags leave open lies above the style that was opened before them, and what they close they
have opened. So that style, or another one of its name, is there to be closed behind them. -/
private theorem adds_between {tag : Text} (isStyle : StyleTag tag) {names : List Text}
    {rendering : Rendering} (adds : names.foldlM addTag {} = .ok rendering)
    (sound : Sound rendering) :
    ∃ last, (tag :: (names ++ ['/' :: tag])).foldlM addTag {} = .ok last ∧ Sound last := by
  obtain ⟨opened, spans⟩ := sound_iff.mp sound
  -- A tag of the same name in between may be closed in place of this one, which then stays open.
  let bottom : Open := ⟨0, tag, none⟩
  have readable : ∀ style ∈ (above [bottom] rendering).opened, ∀ span ∈ style.left,
      ∃ read, Style.ofText? span.style = .ok read := by
    intro style member span leaves
    rcases List.mem_append.mp member with member | member
    · exact opened style member span leaves
    · obtain rfl := List.mem_singleton.mp member
      obtain rfl : ⟨0, tag⟩ = span := by
        simpa [bottom, Open.left, isStyle.something] using leaves
      exact isStyle.reads
  have under : bottom ∈ (above [bottom] rendering).opened := by simp [above]
  obtain ⟨style, left, closes⟩ := exists_closeNamed? under rfl
  obtain ⟨span, leaves, addsClosing⟩ := isStyle.add_closing closes
  obtain ⟨member, _, stay⟩ := of_closeNamed? closes
  have addsAll : (tag :: (names ++ ['/' :: tag])).foldlM addTag {} =
      addTag (above [bottom] rendering) ('/' :: tag) := by
    rw [List.foldlM_cons, isStyle.add_opening]
    show (names ++ ['/' :: tag]).foldlM addTag (above [bottom] {}) = _
    rw [List.foldlM_append, foldlM_above [bottom] adds]
    show ['/' :: tag].foldlM addTag (above [bottom] rendering) = _
    rw [List.foldlM_cons, addsClosing]
    rfl
  exact ⟨_, addsAll.trans addsClosing, sound_iff.mpr
    ⟨fun other inside => readable other (stay other inside),
      List.forall_mem_cons.mpr ⟨readable style member span leaves, spans⟩⟩⟩

/-- A text that can be shown can be shown in a line too, between a tag that only gives a style and
its closing one. -/
theorem renders_tagged_of_renders {tag : String} (isStyle : StyleTag tag.toList)
    {front middle behind : Text} (frontPlain : Plain front) (behindPlain : Plain behind)
    (nonempty : behind ≠ []) (renders : Renders (middle ++ behind)) :
    Renders (Action.tagged tag (front ++ middle ++ behind)) := by
  have alone : tags (middle ++ behind) = tags middle := by
    have cut : tags (middle ++ (behind ++ [])) = tags middle ++ tags [] :=
      tags_append middle nonempty behindPlain (by simp [Opens])
    rwa [List.append_nil, tags_nil, List.append_nil] at cut
  have closing : tags ('[' :: ('/' :: tag.toList ++ [']'])) = ['/' :: tag.toList] := by
    have closingPlain : Plain ('/' :: tag.toList) :=
      List.forall_mem_cons.mpr ⟨by decide, isStyle.plain⟩
    have taken := tags_opening (by rfl) closingPlain []
    rwa [tags_nil] at taken
  have whole : tags (Action.tagged tag (front ++ middle ++ behind)) =
      tag.toList :: (tags middle ++ ['/' :: tag.toList]) := by
    rw [List.append_assoc, tags_tagged isStyle.opens isStyle.plain frontPlain, List.append_assoc,
      tags_append middle nonempty behindPlain (by simp [Opens]), closing]
  obtain ⟨rendering, adds, sound⟩ := renders_iff_tags.mp renders
  rw [alone] at adds
  rw [renders_iff_tags, whole]
  exact adds_between isStyle adds sound

/-! ### Lines without brackets -/

/-- Backslashes that stand in front of an opening bracket stand behind any text without one that
goes on with something else. -/
private theorem not_bracket_behind {text slashes inner rest : Text} {first : Char}
    (free : '[' ∉ text) (ordinary : first ≠ '[' ∧ first ≠ '\\') (all : ∀ d ∈ slashes, d = '\\') :
    text ++ first :: rest ≠ slashes ++ '[' :: inner := by
  intro same
  rcases List.append_eq_append_iff.mp same with ⟨more, rfl, shape⟩ | ⟨more, rfl, shape⟩
  · cases more with
    | nil => exact ordinary.1 (List.cons.inj shape).1
    | cons d more =>
      obtain ⟨rfl, _⟩ := List.cons.inj shape
      exact ordinary.2 (all first (by simp))
  · cases more with
    | nil => exact ordinary.1 (List.cons.inj shape).1.symm
    | cons d more =>
      obtain ⟨rfl, _⟩ := List.cons.inj shape
      exact free (by simp)

private theorem takeMarked?_free {text rest : Text} {first : Char} (free : '[' ∉ text)
    (ordinary : first ≠ '[' ∧ first ≠ '\\') : takeMarked? (text ++ first :: rest) = none := by
  unfold takeMarked?
  split
  · rename_i slashes inner broken
    obtain ⟨whole, passed, _⟩ := Text.of_breakAt broken
    exact absurd whole (not_bracket_behind free ordinary (by simpa using passed))
  · rfl

/-- A text without opening brackets has no tags in front of something ordinary. -/
theorem tags_free_append {text : Text} (free : '[' ∉ text) {first : Char}
    (ordinary : first ≠ '[' ∧ first ≠ '\\') (rest : Text) :
    tags (text ++ first :: rest) = tags rest := by
  induction text with
  | nil => exact tags_ordinary ordinary rest
  | cons c text ih =>
    have textFree : '[' ∉ text := fun inside => free (List.mem_cons_of_mem _ inside)
    by_cases special : c = '[' ∨ c = '\\'
    · rw [List.cons_append, tags_special special, ← List.cons_append,
        takeMarked?_free free ordinary]
      exact ih textFree
    · rw [not_or] at special
      rw [List.cons_append, tags_ordinary special, ih textFree]

/-- A line can be shown if no bracket opens in it and it ends in something ordinary. -/
theorem renders_tagged_of_free {tag : String} (opens : tag.toList.head?.any opensTag)
    (tagPlain : Plain tag.toList) (renders : Renders (Action.tagged tag [])) {text : Text}
    (free : '[' ∉ text) {last : Char} (ordinary : last ≠ '[' ∧ last ≠ '\\') :
    Renders (Action.tagged tag (text ++ [last])) := by
  have shape : ∀ text : Text, Action.tagged tag text =
      '[' :: tag.toList ++ ']' :: (text ++ '[' :: ('/' :: tag.toList ++ [']'])) := by
    simp [Action.tagged]
  refine (renders_congr ?_).mpr renders
  rw [shape, shape, tags_opening opens tagPlain, tags_opening opens tagPlain, List.append_assoc,
    List.singleton_append, tags_free_append free ordinary, List.nil_append]

end DebugLaunch.MarkupTags
