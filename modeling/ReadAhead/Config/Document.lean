/-
Settings as JSON documents. The tables below are the whole format: the names of
the fields, their order in the written form, and what their values may be.

Reading fails in one of two ways. A text that is no document, or a document that
does not fit the tables, is a parsing failure without further detail; settings
that were read and are not usable are a configuration failure.
-/
import ReadAhead.Config.Basic
import ReadAhead.Config.Record
import ReadAhead.Json.Parser
import ReadAhead.Json.Printer

set_option autoImplicit false

namespace ReadAhead.Config

/-! ## Fields -/

def word32? : Json → Option Nat := Json.nat? UInt32.size

def word64? : Json → Option Nat := Json.nat? UInt64.size

def bufferFields : List (Field BufferSettings) :=
  [ .of "block_shift" word32? fun n s => { s with blockShift := n },
    .of "max_lookahead" word64? fun n s => { s with maxLookahead := n },
    .of "max_cache_bytes" word64? fun n s => { s with maxCacheBytes := n },
    .of "pinned_blocks" word64? fun n s => { s with pinnedBlocks := n } ]

def sourceFields : List (Field SourceSettings) :=
  [ .of "read_retry_delay_ms" word64? fun n s => { s with retryDelayMs := n } ]

def httpFields : List (Field HttpSettings) :=
  [ .of "connect_timeout_secs" word64? fun n s => { s with connectTimeoutSecs := n },
    .of "request_timeout_secs" (Json.optional? word64?)
      fun n s => { s with requestTimeoutSecs := n },
    .of "user_agent" (Json.optional? Json.text?) fun text s => { s with userAgent := text },
    .of "use_system_proxy" Json.bool? fun b s => { s with useSystemProxy := b } ]

def settingsFields : List (Field Settings) :=
  [ .of "multibuffer" (readRecord bufferFields .standard) fun b s => { s with buffer := b },
    .of "data_source" (readRecord sourceFields .standard) fun d s => { s with source := d },
    .of "http" (readRecord httpFields .standard) fun h s => { s with http := h } ]

/-! ## Writing -/

def optional {α : Type} (write : α → Json) : Option α → Json
  | none => .null
  | some value => write value

def ofBuffer (s : BufferSettings) : Json :=
  .object
    [ (Json.text "block_shift", .nat s.blockShift),
      (Json.text "max_lookahead", .nat s.maxLookahead),
      (Json.text "max_cache_bytes", .nat s.maxCacheBytes),
      (Json.text "pinned_blocks", .nat s.pinnedBlocks) ]

def ofSource (s : SourceSettings) : Json :=
  .object [(Json.text "read_retry_delay_ms", .nat s.retryDelayMs)]

def ofHttp (s : HttpSettings) : Json :=
  .object
    [ (Json.text "connect_timeout_secs", .nat s.connectTimeoutSecs),
      (Json.text "request_timeout_secs", optional Json.nat s.requestTimeoutSecs),
      (Json.text "user_agent", optional (fun text => .string (Json.text text)) s.userAgent),
      (Json.text "use_system_proxy", .bool s.useSystemProxy) ]

/-- The document of settings. -/
def document (s : Settings) : Json :=
  .object
    [ (Json.text "multibuffer", ofBuffer s.buffer),
      (Json.text "data_source", ofSource s.source),
      (Json.text "http", ofHttp s.http) ]

/-! ## Reading -/

/-- The settings of a document, usable or not. -/
def ofDocument? (value : Json) : Option Settings := readRecord settingsFields .standard value

/-- Settings from a document that may not have been one. -/
def ofParsed (value : Option Json) : Except Failure Settings :=
  match value.bind ofDocument? with
  | none => .error .parse
  | some s => s.validate

/-- Settings from a text. -/
def ofText (text : String) : Except Failure Settings := ofParsed (Json.ofString? text)

/-- Settings from the bytes of a file. -/
def ofBytes (bytes : List UInt8) : Except Failure Settings := ofParsed (Json.ofBytes? bytes)

/-- Settings from a file, which may not exist. -/
def ofFile : Option (List UInt8) → Except Failure Settings
  | none => .error (.file .notFound)
  | some bytes => ofBytes bytes

end ReadAhead.Config
