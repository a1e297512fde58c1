import DebugLaunch.Display.Colour

/-! Styles as tags name them. Two names of one style have one normal form: its attributes in a
fixed order, then its colour, its background and its link. A name that is no style is its own
normal form, in lower case and without blanks at its ends. -/
namespace DebugLaunch.Display

/-- What a style can switch on or off. -/
inductive Effect where
  | bold
  | dim
  | italic
  | underline
  | blink
  | fastBlink
  | reverse
  | conceal
  | strike
  | doubleUnderline
  | frame
  | encircle
  | overline
  deriving DecidableEq, Repr, Inhabited

namespace Effect

/-- All attributes, in the order of the normal form. -/
def all : List Effect :=
  [bold, dim, italic, underline, blink, fastBlink, reverse, conceal, strike, doubleUnderline, frame,
    encircle, overline]

/-- The name of an effect in the normal form. -/
def name : Effect → Text
  | bold => "bold".toList
  | dim => "dim".toList
  | italic => "italic".toList
  | underline => "underline".toList
  | blink => "blink".toList
  | fastBlink => "blink2".toList
  | reverse => "reverse".toList
  | conceal => "conceal".toList
  | strike => "strike".toList
  | doubleUnderline => "underline2".toList
  | frame => "frame".toList
  | encircle => "encircle".toList
  | overline => "overline".toList

/-- The short name of an effect, if it has one. -/
def shortName? : Effect → Option Text
  | bold => some "b".toList
  | dim => some "d".toList
  | italic => some "i".toList
  | underline => some "u".toList
  | reverse => some "r".toList
  | conceal => some "c".toList
  | strike => some "s".toList
  | doubleUnderline => some "uu".toList
  | overline => some "o".toList
  | blink | fastBlink | frame | encircle => none

/-- The effect with a name. -/
def ofName? (text : Text) : Option Effect :=
  all.find? fun effect => effect.name = text || effect.shortName? = some text

end Effect

/-- A style: attributes that are switched on or off, where a later switch counts, and texts for
its colours and its link. -/
structure Style where
  switches : List (Effect × Bool) := []
  colour : Option Text := none
  background : Option Text := none
  link : Option Text := none
  deriving DecidableEq, Repr, Inhabited

namespace Style

/-- Adds what the words of a style say, if they name one. -/
def addWords? (style : Style) : List Text → Except NumeralFault (Option Style)
  | [] => .ok (some style)
  | word :: rest =>
    let small := Text.lower word
    if small = "on".toList then
      match rest with
      | [] => .ok none
      | colour :: rest => do
        match ← Colour.normal? colour with
        | some normal => addWords? { style with background := some normal } rest
        | none => .ok none
    else if small = "not".toList then
      match rest with
      | [] => .ok none
      | name :: rest =>
        match Effect.ofName? name with
        | some effect =>
          addWords? { style with switches := (effect, false) :: style.switches } rest
        | none => .ok none
    else if small = "link".toList then
      match rest with
      | [] => .ok none
      | address :: rest => addWords? { style with link := some address } rest
    else match Effect.ofName? small with
      | some effect =>
        addWords? { style with switches := (effect, true) :: style.switches } rest
      | none => do
        match ← Colour.normal? small with
        | some normal => addWords? { style with colour := some normal } rest
        | none => .ok none

/-- The style that a text names, if it names one. -/
def ofText? (text : Text) : Except NumeralFault (Option Style) :=
  if Text.strip text = "none".toList then .ok (some {}) else addWords? {} (Text.words text)

/-- The words for one effect. -/
def switchWords (style : Style) (effect : Effect) : List Text :=
  match style.switches.lookup effect with
  | some true => [effect.name]
  | some false => ["not".toList, effect.name]
  | none => []

/-- The normal form of a style. -/
def toText (style : Style) : Text :=
  let words := Effect.all.flatMap style.switchWords ++ style.colour.toList ++
    (style.background.map fun colour => ["on".toList, colour]).getD [] ++
    (style.link.map fun address => ["link".toList, address]).getD []
  if words.isEmpty then "none".toList else Text.join [' '] words

/-- The normal form of a name. -/
def normalName (name : Text) : Except NumeralFault Text := do
  match ← ofText? name with
  | some style => .ok style.toText
  | none => .ok (Text.lower (Text.strip name))

end Style
end DebugLaunch.Display
