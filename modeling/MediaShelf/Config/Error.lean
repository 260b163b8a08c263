import MediaShelf.FileTree.Basic
import MediaShelf.Pattern.Compile

/-!
# Faults of a configuration

## Main definitions

* `ConfigError` — what can be wrong with a configuration, with `ConfigError.message`
-/

namespace MediaShelf

/-- What can be wrong with a configuration. -/
inductive ConfigError where
  /-- The file cannot be read. -/
  | readFailed (path : Path) (cause : IoError)
  /-- The file is not of the expected form. The cause is told if it is one of the checks of this
  library, and not one of the form of the text. -/
  | parseFailed (path : Path) (cause : Option ConfigError)
  /-- A naming pattern is faulty. -/
  | invalidPattern (pattern : String) (cause : Pattern.SyntaxError)
  /-- An expression is faulty. -/
  | invalidRegex (source : String)
  /-- A media directory has no sources. -/
  | noSources (root : Path)
  /-- No media directory holds the path. -/
  | unknownMediaDirectory (path : Path)
  deriving Repr

namespace ConfigError

/-- The wording of an error, without what the file system or a reader of texts adds to it. -/
def summary : ConfigError → String
  | readFailed path _ => "Failed to read config file " ++ path.toString
  | parseFailed path _ => "Failed to parse config file " ++ path.toString
  | invalidPattern pattern cause => "Invalid pattern '" ++ pattern ++ "': " ++ cause.message
  | invalidRegex source => "Invalid regular expression '" ++ source ++ "'"
  | noSources root => "Media directory " ++ root.toString ++ " has no sources configured"
  | unknownMediaDirectory path => "No media directory configured for " ++ path.toString

/-- The wording of an error. What is wrong with the text of a file stands on lines of its own. -/
def message : ConfigError → String
  | readFailed path cause => (readFailed path cause).summary ++ ": " ++ cause.message
  | parseFailed path (some cause) =>
    (parseFailed path none).summary ++ ": TOML parse error\n" ++ cause.summary
  | parseFailed path none => (parseFailed path none).summary ++ ": TOML parse error"
  | invalidRegex source => (invalidRegex source).summary ++ ": regex parse error"
  | e => e.summary

end ConfigError

end MediaShelf
