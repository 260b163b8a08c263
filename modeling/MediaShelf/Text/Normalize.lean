import MediaShelf.Text.Words

/-!
# Names that every file system takes

Titles and show names are arbitrary text; a file name is not. Normalized text holds ASCII letters,
digits, spaces and a little punctuation, so it can stand in a path component anywhere.

## Main definitions

* `latinBase` — accented Latin letters with the plain letters that stand for them
* `plainPunctuation` — typographic marks with their plain forms
* `normalizeChar` — the normal form of one character
* `normalize` — the normal form of a text
-/

namespace MediaShelf.Text

/-- The accented letters of the Latin-1 and Latin Extended-A blocks, each group with the plain
letters that stand for it. -/
def latinBase : List (String × String) := [
  ("ÀÁÂÃÄÅĀĂĄ", "A"), ("àáâãäåāăą", "a"), ("Æ", "AE"), ("æ", "ae"),
  ("ÇĆĈĊČ", "C"), ("çćĉċč", "c"), ("ÐĎĐ", "D"), ("ðďđ", "d"),
  ("ÈÉÊËĒĔĖĘĚ", "E"), ("èéêëēĕėęě", "e"), ("ĜĞĠĢ", "G"), ("ĝğġģ", "g"),
  ("ĤĦ", "H"), ("ĥħ", "h"), ("ÌÍÎÏĨĪĬĮİ", "I"), ("ìíîïĩīĭįı", "i"),
  ("Ĳ", "IJ"), ("ĳ", "ij"), ("Ĵ", "J"), ("ĵ", "j"), ("Ķ", "K"), ("ķĸ", "k"),
  ("ĹĻĽĿŁ", "L"), ("ĺļľŀł", "l"), ("ÑŃŅŇŊ", "N"), ("ñńņňŉŋ", "n"),
  ("ÒÓÔÕÖØŌŎŐ", "O"), ("òóôõöøōŏő", "o"), ("Œ", "OE"), ("œ", "oe"),
  ("ŔŖŘ", "R"), ("ŕŗř", "r"), ("ŚŜŞŠ", "S"), ("śŝşšſ", "s"), ("ß", "ss"),
  ("ŢŤŦ", "T"), ("ţťŧ", "t"), ("Þ", "TH"), ("þ", "th"),
  ("ÙÚÛÜŨŪŬŮŰŲ", "U"), ("ùúûüũūŭůűų", "u"), ("Ŵ", "W"), ("ŵ", "w"),
  ("ÝŶŸ", "Y"), ("ýÿŷ", "y"), ("ŹŻŽ", "Z"), ("źżž", "z")]

/-- Typographic marks, each group with its plain form. Double quotes become single ones and an
exclamation mark a full stop, since neither is portable in file names. -/
def plainPunctuation : List (List Char × String) := [
  (['\u2018', '\u2019', '\u201A', '\u201B', '\u2032', '\x60', '\u00B4'], "'"),
  (['\x22', '\u201C', '\u201D', '\u201E', '\u201F', '\u2033'], "'"),
  (['\u2010', '\u2011', '\u2012', '\u2013', '\u2014', '\u2015'], "-"),
  (['\u2026'], "..."),
  (['\u00A0', '\u2002', '\u2003', '\u2009'], " "),
  (['!'], ".")]

/-- The characters that file systems reserve. -/
def isReserved (c : Char) : Bool := [':', '/', '\\', '*', '<', '>', '|'].contains c

/-- The characters that stay as they are. -/
def isPortable (c : Char) : Bool :=
  c.isAlphanum || [' ', '.', ',', '\x27', '\x22', '(', ')', '&', '!', '-'].contains c

/-- The plain letters of an accented Latin letter. -/
def latinBase? (c : Char) : Option (List Char) :=
  (latinBase.find? (·.1.toList.contains c)).map (·.2.toList)

/-- The plain form of a typographic mark. -/
def plainPunctuation? (c : Char) : Option (List Char) :=
  (plainPunctuation.find? (·.1.contains c)).map (·.2.toList)

/-- The normal form of one character: plain letters, plain punctuation, a hyphen for what file
systems reserve, and a question mark for all that is not portable. -/
def normalizeChar (c : Char) : List Char :=
  match latinBase? c with
  | some letters => letters
  | none =>
    match plainPunctuation? c with
    | some mark => mark
    | none => if isReserved c then ['-'] else if isPortable c then [c] else ['?']

/-- The normal form of a text: that of each character, trimmed. -/
def normalizeChars (text : List Char) : List Char := trim (text.flatMap normalizeChar)

/-- The normal form of a text. -/
def normalize (text : String) : String := String.ofList (normalizeChars text.toList)

end MediaShelf.Text
