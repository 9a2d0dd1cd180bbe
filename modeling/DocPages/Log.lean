import DocPages.Text.Basic
/-!
# Log records

What a run reports as it goes: records with a level, the component that wrote them and a
message. A run returns its records in order; the command line shows those at or above the
chosen level on the console as `[refdoc] LEVEL message`, and in a log file as
`time LEVEL logger: message`.
-/

namespace DocPages

/-- The severity of a log record. -/
inductive Level where
  /-- Detail for troubleshooting, shown only when verbose. -/
  | debug
  /-- Progress of a run. -/
  | info
  /-- Something expected that did not happen. -/
  | warning
  deriving Repr, DecidableEq, Inhabited

/-- The level's name as it is printed. -/
def Level.name : Level → Text
  | .debug => "DEBUG"
  | .info => "INFO"
  | .warning => "WARNING"

/-- The component that writes a record. -/
inductive Component where
  /-- Splitting dotted names into owner and name. -/
  | normalizer
  /-- Resolving references. -/
  | xref
  /-- Grouping symbols into pages. -/
  | routing
  /-- Reading doc comments from source text. -/
  | parser
  /-- Collecting source files. -/
  | scanner
  /-- Writing pages and assets. -/
  | emitter
  /-- The publish run as a whole. -/
  | publisher
  deriving Repr, DecidableEq, Inhabited

/-- The logger name of a component. -/
def Component.logger : Component → Text
  | .normalizer => "refdoc.normalizer"
  | .xref => "refdoc.xref"
  | .routing => "refdoc.routing"
  | .parser => "refdoc.parsers.jsdoc"
  | .scanner => "refdoc.scanner"
  | .emitter => "refdoc.emitter"
  | .publisher => "refdoc.publisher"

/-- One log record. -/
structure LogRecord where
  /-- Its severity. -/
  level : Level
  /-- The component that wrote it. -/
  source : Component
  /-- The message. -/
  message : Text
  deriving Repr, DecidableEq, Inhabited

namespace LogRecord

/-- A debug record. -/
def debug (source : Component) (message : Text) : LogRecord := ⟨.debug, source, message⟩

/-- An info record. -/
def info (source : Component) (message : Text) : LogRecord := ⟨.info, source, message⟩

/-- A warning record. -/
def warning (source : Component) (message : Text) : LogRecord := ⟨.warning, source, message⟩

/-- Whether the record is shown: debug records only when verbose. -/
def shown (verbose : Bool) (r : LogRecord) : Bool :=
  verbose || r.level != .debug

/-- The record as a console line, without the line break. -/
def consoleLine (r : LogRecord) : Text :=
  Text.ofString "[refdoc] " ++ r.level.name ++ " " ++ r.message

/-- The record as a log file line stamped with `time`, without the line break. -/
def fileLine (time : Text) (r : LogRecord) : Text :=
  time ++ " " ++ r.level.name ++ " " ++ r.source.logger ++ ": " ++ r.message

end LogRecord

end DocPages
