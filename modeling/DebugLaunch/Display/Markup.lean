import DebugLaunch.Display.Emoji
import DebugLaunch.Display.Literal
import DebugLaunch.Display.Style
import DebugLaunch.Text.Word

/-! Markup: text with tags in brackets. A tag opens a style or closes one and leaves no text; a
backslash in front of a tag makes it text, and codes between colons become emoji. Rendering keeps
the text only, and fails where a closing tag has nothing to close, where the arguments of an event
handler cannot be read, and where a colour has a component that is no numeral. -/
namespace DebugLaunch.Display

/-- What is wrong with a marked up text. -/
inductive MarkupFault where
  | nothingToClose
  | unreadableHandler
  | component (fault : NumeralFault)
  deriving DecidableEq, Repr

namespace Markup

/-- A part of a marked up text. -/
inductive Part where
  | plain (text : Text)
  | tag (body : Text)
  deriving DecidableEq, Repr

/-- Whether a character can begin a tag. -/
def opensTag (c : Char) : Bool := c.isLower || c = '#' || c = '/' || c = '@'

/-- A tag whose opening bracket has just been read: its body, and the text behind it. -/
def takeTag? : Text → Option (Text × Text)
  | [] => none
  | first :: rest =>
    if opensTag first then
      match Text.breakAt (fun c => c = ']' || c = '[') rest with
      | (body, ']' :: behind) => some (first :: body, behind)
      | _ => none
    else none

theorem length_of_takeTag? {text body behind : Text} (took : takeTag? text = some (body, behind)) :
    behind.length < text.length := by
  revert took
  fun_cases takeTag? text with
  | case1 => simp
  | case2 first rest _ inner left shape =>
    intro took
    have whole := congrArg List.length (Text.breakAt_append (fun c => c = ']' || c = '[') rest)
    rw [shape] at whole
    simp only [Option.some.injEq, Prod.mk.injEq] at took
    obtain ⟨rfl, rfl⟩ := took
    simp at whole ⊢
    omega
  | case3 | case4 => simp

/-- A tag with the backslashes in front of it: their number, its body, and the text behind it. -/
def takeMarked? (text : Text) : Option (Nat × Text × Text) :=
  match Text.breakAt (· != '\\') text with
  | (slashes, '[' :: inner) =>
    (takeTag? inner).map fun (body, behind) => (slashes.length, body, behind)
  | _ => none

theorem length_of_takeMarked? {text body behind : Text} {slashes : Nat}
    (took : takeMarked? text = some (slashes, body, behind)) : behind.length < text.length := by
  unfold takeMarked? at took
  split at took
  · rename_i before inner shape
    have whole := congrArg List.length (Text.breakAt_append (· != '\\') text)
    rw [shape] at whole
    obtain ⟨⟨innerBody, left⟩, tag, same⟩ := Option.map_eq_some_iff.1 took
    simp only [Prod.mk.injEq] at same
    obtain ⟨_, _, rfl⟩ := same
    have := length_of_takeTag? tag
    simp at whole
    omega
  · simp at took

/-- The parts of a text; `plain` holds the characters read since the last tag, last one first.
Two backslashes in front of a tag stand for one, and a single one makes the tag text. -/
def partsFrom (plain : Text) (text : Text) : List Part :=
  match text with
  | [] => [.plain plain.reverse]
  | c :: rest =>
    if c = '\\' || c = '[' then
      match _marked : takeMarked? (c :: rest) with
      | some (slashes, body, behind) =>
        .plain plain.reverse :: .plain (List.replicate (slashes / 2) '\\') ::
          (if slashes % 2 = 1 then .plain ('[' :: body ++ [']']) else .tag body) ::
          partsFrom [] behind
      | none => partsFrom (c :: plain) rest
    else partsFrom (c :: plain) rest
termination_by text.length
decreasing_by
  · have := length_of_takeMarked? _marked
    simpa using this
  · simp
  · simp

/-- The parts of a text. -/
def parts (text : Text) : List Part := partsFrom [] text

/-- A backslash in front of a bracket that opens no tag is not shown. -/
def unescape : Text → Text
  | '\\' :: '[' :: rest => '[' :: unescape rest
  | c :: rest => c :: unescape rest
  | [] => []

/-- The control characters that are never shown: bell, backspace, vertical tab, form feed and
carriage return. -/
def isHidden (c : Char) : Bool :=
  c = '\x07' || c = '\x08' || c = '\x0b' || c = '\x0c' || c = '\r'

/-- What a plain part shows. -/
def shown (text : Text) : Text := (Emoji.replace (unescape text)).filter fun c => !isHidden c

/-- A style that a tag has opened: where it begins, its normal name, and what the tag says behind an
equals sign. -/
structure Open where
  start : Nat
  name : Text
  parameters : Option Text
  deriving DecidableEq, Repr

/-- The style of a part of the text shown: where the part begins, and what the style is called. -/
structure Span where
  start : Nat
  style : Text
  deriving DecidableEq, Repr

/-- The normal form of a style's name. -/
def normalName (name : Text) : Except MarkupFault Text :=
  (Style.normalName name).mapError .component

/-- The style that the body of a tag opens. -/
def Open.ofBody (start : Nat) (body : Text) : Except MarkupFault Open :=
  match Text.breakAt (· = '=') body with
  | (name, []) => do .ok ⟨start, ← normalName name, none⟩
  | (name, _ :: parameters) => do .ok ⟨start, ← normalName name, some parameters⟩

/-- Whether the parameters of an event handler can be read: the name of the handler, with its
arguments in parentheses if there are any, or else a literal. -/
def readsAsHandler (parameters : Text) : Bool :=
  let parameters := Text.strip parameters
  let (name, arguments) := Text.breakAt (fun c => !(Text.isWord c || c = '.')) parameters
  if arguments = [] then true
  else if arguments.head? = some '(' && arguments.getLast? = some ')' &&
    !arguments.contains '\n' then Literal.reads arguments
  else Literal.reads (name ++ arguments)

/-- The part that a style applies to once it is closed. An event handler has no style, but its
parameters have to be readable. -/
def Open.close (style : Open) : Except MarkupFault (Option Span) :=
  match style.name, style.parameters with
  | '@' :: _, some (c :: parameters) =>
    if readsAsHandler (c :: parameters) then .ok none else .error .unreadableHandler
  | '@' :: _, _ => .ok none
  | name, none => .ok (some ⟨style.start, name⟩)
  | name, some parameters => .ok (some ⟨style.start, name ++ ' ' :: parameters⟩)

/-- The part that a style applies to which is never closed. -/
def Open.left (style : Open) : Option Span :=
  let called := match style.parameters with
    | none => style.name
    | some parameters => style.name ++ ' ' :: parameters
  if called = [] then none else some ⟨style.start, called⟩

/-- Takes the last opened style with a name out of the open ones. -/
def closeNamed? (name : Text) : List Open → Option (Open × List Open)
  | [] => none
  | style :: rest =>
    if style.name = name then some (style, rest)
    else (closeNamed? name rest).map fun (closed, left) => (closed, style :: left)

/-- A text being rendered: what it shows so far, the styles that are open, last opened first, and
the parts that the others apply to, last closed first. -/
structure Rendering where
  shown : Text := []
  opened : List Open := []
  spans : List Span := []
  deriving Repr, Inhabited

/-- The style that a closing tag closes, and those that stay open. -/
def closed? (opened : List Open) (body : Text) : Except MarkupFault (Option (Open × List Open)) :=
  let name := Text.strip (Text.breakAt (· = '=') body).1
  if name = [] then
    match opened with
    | [] => .ok none
    | style :: left => .ok (some (style, left))
  else do .ok (closeNamed? (← normalName name) opened)

/-- Goes on behind a part. -/
def Rendering.add (rendering : Rendering) : Part → Except MarkupFault Rendering
  | .plain text => .ok { rendering with shown := rendering.shown ++ Markup.shown text }
  | .tag ('/' :: body) => do
    match ← closed? rendering.opened body with
    | none => .error .nothingToClose
    | some (style, opened) => do
      let span ← style.close
      .ok { rendering with opened, spans := span.toList ++ rendering.spans }
  | .tag body => do
    let style ← Open.ofBody rendering.shown.length body
    .ok { rendering with opened := style :: rendering.opened }

/-- The parts that all styles apply to, in the order in which they begin, and of those that begin
together the last closed one first. -/
def Rendering.allSpans (rendering : Rendering) : List Span :=
  ((rendering.opened.filterMap Open.left).reverse ++ rendering.spans).mergeSort
    fun first second => first.start ≤ second.start

/-- The text that a marked up text shows. -/
def render (text : Text) : Except MarkupFault Text := do
  let rendering ← (parts text).foldlM Rendering.add {}
  rendering.allSpans.forM fun span => do
    let _ ← (Style.ofText? span.style).mapError MarkupFault.component
    .ok ()
  .ok rendering.shown

end Markup
end DebugLaunch.Display
