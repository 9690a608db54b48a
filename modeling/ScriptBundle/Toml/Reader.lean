import ScriptBundle.Toml.Value

/-! Reading documents of the settings notation. What is wrong with a refused document is not said. -/
namespace ScriptBundle.Toml

abbrev Reader := StateT (List Char) Option

namespace Reader

def fail {α : Type} : Reader α := fun _ => none

def peek : Reader (Option Char) := do return (← get).head?

def drop (n : Nat) : Reader Unit := modify (·.drop n)

def skip : Reader Unit := drop 1

/-- Takes the given text if it comes next. -/
def take? (text : List Char) : Reader Bool := do
  if text.isPrefixOf (← get) then
    drop text.length
    return true
  else return false

def expect (text : List Char) : Reader Unit := do if !(← take? text) then fail

def takeWhile (p : Char → Bool) : Reader (List Char) := do
  let taken := (← get).takeWhile p
  drop taken.length
  return taken

def isBlank (c : Char) : Bool := c == ' ' || c == '\t'

def skipBlanks : Reader Unit := do let _ ← takeWhile isBlank

/-- What a comment or a one-line literal may hold. -/
def isPrintable (c : Char) : Bool := c == '\t' || (32 ≤ c.toNat && c.toNat ≠ 127)

def newline? : Reader Bool := do return (← take? ['\n']) || (← take? ['\r', '\n'])

/-- Takes blanks and a comment. -/
def skipRemark : Reader Unit := do
  skipBlanks
  if ← take? ['#'] then let _ ← takeWhile isPrintable

/-- Takes blanks, comments and line ends. -/
def skipLines : Nat → Reader Unit
  | 0 => pure ()
  | fuel + 1 => do
    skipRemark
    if ← newline? then skipLines fuel

/-- Takes what may stand between two items of a list. -/
def skipGap : Reader Unit := do skipLines ((← get).length + 1)

def hexValue? (c : Char) : Option Nat :=
  if c.isDigit then some (c.toNat - '0'.toNat)
  else if 'a' ≤ c ∧ c ≤ 'f' then some (c.toNat - 'a'.toNat + 10)
  else if 'A' ≤ c ∧ c ≤ 'F' then some (c.toNat - 'A'.toNat + 10)
  else none

/-- Takes the character that the given number of hexadecimal digits write. -/
def scalar (count : Nat) : Reader Char := do
  let digits := (← get).take count
  let value ← (digits.foldlM (fun n c => do return n * 16 + (← hexValue? c)) 0 : Option Nat)
  if digits.length < count || !Nat.isValidChar value then fail
  drop count
  return Char.ofNat value

/-- Takes the letter of an escape and what belongs to it. -/
def escape : Reader Char := do
  let c ← peek
  skip
  match c with
  | some 'b' => return '\x08'
  | some 't' => return '\t'
  | some 'n' => return '\n'
  | some 'f' => return '\x0c'
  | some 'r' => return '\r'
  | some '"' => return '"'
  | some '\\' => return '\\'
  | some 'u' => scalar 4
  | some 'U' => scalar 8
  | _ => fail

/-- Takes the rest of a literal on one line. -/
def lineText (quote : Char) : Nat → List Char → Reader String
  | 0, _ => fail
  | fuel + 1, taken => do
    let c ← (← peek)
    skip
    if c = quote then return String.ofList taken.reverse
    else if c = '\\' ∧ quote = '"' then lineText quote fuel ((← escape) :: taken)
    else if isPrintable c then lineText quote fuel (c :: taken)
    else fail

/-- Whether a backslash here ends its line, so that all blanks up to the next text fall away. -/
def continues (rest : List Char) : Bool :=
  match rest.dropWhile isBlank with
  | '\n' :: _ | '\r' :: '\n' :: _ => true
  | _ => false

def isSpace (c : Char) : Bool := isBlank c || c == '\n' || c == '\r'

/-- Takes the rest of a literal over several lines; up to two quotes may stand before the closing
three. -/
def blockText (quote : Char) : Nat → List Char → Reader String
  | 0, _ => fail
  | fuel + 1, taken => do
    let quotes := (← get).takeWhile (· = quote)
    if 3 ≤ quotes.length then
      if 5 < quotes.length then fail
      drop quotes.length
      return String.ofList (quotes.drop 3 ++ taken).reverse
    let c ← (← peek)
    skip
    if c = '\\' ∧ quote = '"' then
      if continues (← get) then
        let _ ← takeWhile isSpace
        blockText quote fuel taken
      else blockText quote fuel ((← escape) :: taken)
    else if c = '\r' then
      if ← take? ['\n'] then blockText quote fuel ('\n' :: '\r' :: taken) else fail
    else if c = '\n' ∨ isPrintable c then blockText quote fuel (c :: taken)
    else fail

/-- Takes a literal that starts with the given quote. -/
def text (quote : Char) : Reader String := do
  if ← take? [quote, quote, quote] then
    let _ ← newline?
    blockText quote ((← get).length + 1) []
  else
    skip
    lineText quote ((← get).length + 1) []

def isBare (c : Char) : Bool := c.isAlphanum || c == '_' || c == '-'

def simpleKey : Reader String := do
  match ← peek with
  | some '"' => skip; lineText '"' ((← get).length + 1) []
  | some '\x27' => skip; lineText '\x27' ((← get).length + 1) []
  | _ =>
    let name ← takeWhile isBare
    if name.isEmpty then fail
    return String.ofList name

/-- Takes a key, as the path of its parts. -/
def key : Nat → Reader (List String)
  | 0 => fail
  | fuel + 1 => do
    skipBlanks
    let name ← simpleKey
    skipBlanks
    if ← take? ['.'] then return name :: (← key fuel) else return [name]

/-- Takes items separated by commas up to the closing bracket. -/
def items (value : Reader Value) : Nat → Reader (List Value)
  | 0 => fail
  | fuel + 1 => do
    skipGap
    if ← take? [']'] then return []
    let item ← value
    skipGap
    if ← take? [','] then return item :: (← items value fuel)
    expect [']']
    return [item]

/-- Takes the members of a table in braces, with those before them. -/
def members (value : Reader Value) : Nat → Members → Reader Members
  | 0, _ => fail
  | fuel + 1, before => do
    let path ← key fuel
    expect ['=']
    skipBlanks
    let before ← addKey (← value) path before
    skipBlanks
    if ← take? [','] then members value fuel before
    else
      expect ['\x7d']
      return before

/-- Takes a value nested less deep than the fuel. -/
def value : Nat → Reader Value
  | 0 => fail
  | fuel + 1 => do
    match ← peek with
    | some '"' => .text <$> text '"'
    | some '\x27' => .text <$> text '\x27'
    | some '[' =>
      skip
      .list <$> items (value fuel) ((← get).length + 1)
    | some '\x7b' =>
      skip
      skipBlanks
      if ← take? ['\x7d'] then return .table .braces []
      .table .braces <$> members (value fuel) ((← get).length + 1) []
    | _ =>
      let name ← takeWhile isBare
      if name = ['t', 'r', 'u', 'e'] then return .flag true
      else if name = ['f', 'a', 'l', 's', 'e'] then return .flag false
      else fail

/-- Takes the lines of a document; `header` is the path of the table they belong to. -/
def lines : Nat → List String → Members → Reader Members
  | 0, _, _ => fail
  | fuel + 1, header, root => do
    skipBlanks
    let endLine (header : List String) (root : Members) : Reader Members := do
      skipRemark
      if (← peek).isNone then return root
      if ← newline? then lines fuel header root else fail
    match ← peek with
    | none | some '#' | some '\n' | some '\r' => endLine header root
    | some '[' =>
      let many ← take? ['[', '[']
      if !many then skip
      let path ← key ((← get).length + 1)
      expect (if many then [']', ']'] else [']'])
      let name ← path.getLast?
      let root ← descend false (if many then addToTables name else addHeader name) path.dropLast root
      endLine path root
    | some _ =>
      let path ← key ((← get).length + 1)
      expect ['=']
      skipBlanks
      let v ← value ((← get).length + 1)
      endLine header (← descend false (addKey v path) header root)

end Reader

/-- The members of the document that a text writes; a byte order mark may stand before it. -/
def document? (text : String) : Option Members :=
  let chars := match text.toList with
    | '\ufeff' :: rest => rest
    | chars => chars
  (Reader.lines (chars.length + 1) [] []).run' chars

end ScriptBundle.Toml
