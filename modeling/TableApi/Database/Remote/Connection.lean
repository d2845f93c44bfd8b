import TableApi.Address.Reader
import TableApi.Configuration.Basic
import TableApi.Database.Basic

/-!
# Connecting to a database server

A connection is described by an address.  Its query holds options; an option with a value that
does not suit it, or a demand that the server cannot meet, keeps the connection from being made.
The servers reached here have no encryption.
-/

namespace TableApi

/-- What a connection demands of encryption. -/
inductive Encryption where
  | disabled
  | preferred
  | required
deriving DecidableEq, Repr

namespace Encryption

/-- The demand that a word names. -/
def ofWord? (word : String) : Option Encryption :=
  match String.ofList (word.toList.map Char.toLower) with
  | "disabled" => some disabled
  | "preferred" => some preferred
  | "required" | "verify_ca" | "verify_identity" => some required
  | _ => none

end Encryption

/-- The options of a connection that may keep it from being made. -/
structure ConnectionOptions where
  encryption : Encryption
  charset : String
  collation : Option String
deriving DecidableEq, Repr

namespace ConnectionOptions

/-- The options of an address that names none. -/
def standard : ConnectionOptions :=
  ⟨.preferred, "utf8mb4", none⟩

/-! ## Character sets -/

/-- The orders of the character sets that hold all scripts, each named for a language. -/
def languageOrders : String :=
  "bin croatian_ci czech_ci danish_ci esperanto_ci estonian_ci general_ci german2_ci hungarian_ci
  icelandic_ci latvian_ci lithuanian_ci persian_ci polish_ci roman_ci romanian_ci sinhala_ci
  slovak_ci slovenian_ci spanish2_ci spanish_ci swedish_ci turkish_ci unicode_520_ci unicode_ci
  vietnamese_ci"

/-- The character sets that a server may be asked to use, each with its orders. -/
def charsets : List (String × String) :=
  [("armscii8", "bin general_ci"), ("ascii", "bin general_ci"), ("big5", "bin chinese_ci"),
    ("binary", ""), ("cp1250", "bin croatian_ci czech_cs general_ci polish_ci"),
    ("cp1251", "bin bulgarian_ci general_ci general_cs ukrainian_ci"),
    ("cp1256", "bin general_ci"), ("cp1257", "bin general_ci lithuanian_ci"),
    ("cp850", "bin general_ci"), ("cp852", "bin general_ci"), ("cp866", "bin general_ci"),
    ("cp932", "bin japanese_ci"), ("dec8", "bin swedish_ci"), ("eucjpms", "bin japanese_ci"),
    ("euckr", "bin korean_ci"), ("gb18030", "bin chinese_ci unicode_520_ci"),
    ("gb2312", "bin chinese_ci"), ("gbk", "bin chinese_ci"), ("geostd8", "bin general_ci"),
    ("greek", "bin general_ci"), ("hebrew", "bin general_ci"), ("hp8", "bin english_ci"),
    ("keybcs2", "bin general_ci"), ("koi8r", "bin general_ci"), ("koi8u", "bin general_ci"),
    ("latin1", "bin danish_ci general_ci general_cs german1_ci german2_ci spanish_ci swedish_ci"),
    ("latin2", "bin croatian_ci czech_cs general_ci hungarian_ci"), ("latin5", "bin turkish_ci"),
    ("latin7", "bin estonian_cs general_ci general_cs"), ("macce", "bin general_ci"),
    ("macroman", "bin general_ci"), ("sjis", "bin japanese_ci"), ("swe7", "bin swedish_ci"),
    ("tis620", "bin thai_ci"), ("ucs2", languageOrders ++ " general_mysql500_ci"),
    ("ujis", "bin japanese_ci"), ("utf16", languageOrders), ("utf16le", "bin general_ci"),
    ("utf32", languageOrders), ("utf8", languageOrders ++ " general_mysql500_ci tolower_ci"),
    ("utf8mb4", languageOrders ++ " 0900_ai_ci")]

/-- Whether a character set may be asked for. -/
def isCharset (name : String) : Bool :=
  (charsets.map Prod.fst).contains name

/-- Whether an order of texts may be asked for: that of bytes, or an order of a character set, whose
name it bears in front. -/
def isCollation (name : String) : Bool :=
  name = "binary" ||
    match Text.cutAt? '_' name.toList with
    | none => false
    | some (charset, order) =>
        (charsets.lookup (.ofList charset)).any fun orders =>
          (Text.words orders.toList).contains order

/-! ## Reading options -/

/-- Takes one parameter of an address into account. -/
def withParameter? (options : ConnectionOptions) (parameter : String × String) :
    Option ConnectionOptions :=
  match parameter.1 with
  | "sslmode" | "ssl-mode" =>
      (Encryption.ofWord? parameter.2).map fun encryption => { options with encryption }
  | "charset" => some { options with charset := parameter.2 }
  | "collation" => some { options with collation := some parameter.2 }
  | "statement-cache-capacity" => (Text.word? parameter.2.toList).map fun _ => options
  | _ => some options

/-- The options that an address holds.  The credentials must be text once their escapes are
resolved. -/
def ofAddress? (address : Address) : Option ConnectionOptions :=
  let isText (part : List Char) : Bool := (Address.unescape? part).isSome
  if address.authority.all fun authority => isText authority.user && isText authority.password
  then address.parameters.foldlM withParameter? standard
  else none

/-- Whether a server without encryption can meet the options. -/
def canBeMet (options : ConnectionOptions) : Bool :=
  options.encryption != .required && isCharset options.charset &&
    options.collation.all isCollation

end ConnectionOptions

namespace Connection

/-- The address to connect to, if it can be connected to at all. -/
def address? (url : String) : Option Address :=
  (Address.ofText? url).filter fun address =>
    (ConnectionOptions.ofAddress? address).any ConnectionOptions.canBeMet

def opened (address : Address) (connections : Nat) : LogEntry :=
  .plain .info ("Created database pool for " ++ address.redacted.text ++ " (max " ++
    toString connections ++ " connections)")

/-- The log entry about the end of a connection. -/
def closed : LogEntry :=
  .plain .info "Closed database pool"

/-- Connects to the server of the settings, which may refuse. -/
def connect (settings : DatabaseSettings) (refusal : Option DatabaseError) :
    Except DatabaseError LogEntry :=
  match settings.url with
  | none => .error (.missingSetting "DATABASE_URL")
  | some url =>
      match address? url, refusal with
      | none, _ => .error (.connection "the address cannot be used")
      | some _, some error => .error error
      | some address, none => .ok (opened address settings.connections)

end Connection

end TableApi
