import PageTokens.Text.Basic

/-!
# Texts on a terminal

A terminal takes some characters for commands and shows the others. A command is
a control character alone, or a sequence that begins with the escape character.
`Terminal.shown` is what is left of a text without its commands.
-/

namespace PageTokens.Terminal

/-- Where in a command a text has come to. -/
inductive Phase
  | outside
  | escape
  | escapeBody
  | controlSequence
  | deviceStart
  | deviceParameters
  | deviceMarks
  | deviceText
  | title
  | message
deriving DecidableEq, Repr

/-- Whether a character is white space among the control characters. -/
def isSpace (char : Char) : Bool :=
  char = '\t' || char = '\n' || char = '\x0c' || char = '\r'

/-- Whether a character is shown outside of commands. -/
def isShown (char : Char) : Bool :=
  isSpace char || (0x20 ≤ char.toNat && char.toNat ≠ 0x7f)

/-- Whether the end of a string is among the bytes of a character. -/
def endsString (char : Char) : Bool :=
  (String.utf8EncodeChar char).contains 0x9c

namespace Phase

/-- The phase behind the first character after an escape character. -/
def behindEscape (char : Char) : Phase :=
  match char with
  | '[' => controlSequence
  | ']' => title
  | 'P' => deviceStart
  | 'X' | '^' | '_' => message
  | _ =>
    if char < ' ' ∨ '~' < char then escape
    else if char ≤ '/' then escapeBody
    else outside

/-- The phase behind a character before the text of a device command. -/
def behindDevice (phase : Phase) (char : Char) : Phase :=
  if char < ' ' ∨ '~' < char then phase
  else if '@' ≤ char then deviceText
  else if char ≤ '/' then deviceMarks
  else if phase = deviceStart ∨ (phase = deviceParameters ∧ char ≤ ';') then deviceParameters
  else deviceText

/-- The phase behind a character. The characters for cancelling and for
substituting end every command, and an escape character begins a new one. -/
def next (phase : Phase) (char : Char) : Phase :=
  if char = '\x18' ∨ char = '\x1a' then outside
  else if char = '\x1b' then escape
  else
    match phase with
    | outside => outside
    | escape => behindEscape char
    | escapeBody => if '0' ≤ char ∧ char ≤ '~' then outside else escapeBody
    | controlSequence => if '@' ≤ char ∧ char ≤ '~' then outside else controlSequence
    | deviceStart | deviceParameters | deviceMarks => behindDevice phase char
    | deviceText => if endsString char then outside else deviceText
    | title => if char = '\x07' then outside else title
    | message => if endsString char then outside else message

/-- Whether white space is shown within a command. -/
def showsSpace : Phase → Bool
  | escape | escapeBody | controlSequence => true
  | _ => false

end Phase

/-- What is shown of a text. White space within a command is shown, and so is
what follows it up to the next character that is not; then the command goes on,
unless a character beyond ASCII has ended it. -/
def shownFrom (phase : Phase) (showing : Bool) : Text → Text
  | [] => []
  | char :: rest =>
    if showing || phase = .outside then
      if isShown char then
        char :: shownFrom (if char.toNat < 0x80 then phase else .outside) true rest
      else shownFrom (phase.next char) false rest
    else if phase.showsSpace && isSpace char then char :: shownFrom phase true rest
    else shownFrom (phase.next char) false rest

/-- What is shown of a text. -/
def shown (text : Text) : Text :=
  shownFrom .outside true text

end PageTokens.Terminal
