import KeyCluster.Value.Basic

/-! The settings of the program, and how they are read off a document. -/

namespace KeyCluster

/-- How connections are secured. Values are kept as they were written. -/
structure TlsSettings where
  verify : Value := .bool true
  /-- The file with the trusted authorities; an empty name means those of the system. -/
  authorities : Value := .text ""
  certificate : Value := .text ""
  key : Value := .text ""

/-- How servers are reached; `τ` is what is known about the security of connections. -/
structure ServerSettings (τ : Type) where
  endpoints : Value
  apiKey : Value
  /-- The time limit of a request, in seconds. -/
  timeout : Value
  tls : τ

/-- What is logged, and how. -/
structure LogSettings where
  /-- The least severe level that is logged, by name. -/
  level : Value := .text "INFO"
  format : Value := .text "json"

/-- All settings; the parameters are what is known about each section. -/
structure Settings (α β : Type) where
  server : α
  logging : β

/-- A section of a document: settings where it is a mapping, else the value that stands there. -/
inductive Section (α : Type) where
  | built (settings : α)
  /-- A value that is no mapping. -/
  | raw (value : Value)

namespace Section

/-- The section that a value describes, where `build` makes settings of entries. -/
def ofValue {α : Type} (build : List (Value × Value) → α) : Value → Section α
  | .map entries => built (build entries)
  | v => raw v

/-- The section under a name; where there is none, the settings that no entries make. -/
def named {α : Type} (build : List (Value × Value) → α) (name : Text)
    (entries : List (Value × Value)) : Section α :=
  match Value.field? name entries with
  | some value => ofValue build value
  | none => built (build [])

/-- A section as a value, where `write` does so for settings. -/
def toValue {α : Type} (write : α → Value) : Section α → Value
  | built settings => write settings
  | raw value => value

end Section

/-- The settings of a server section that may still hold anything. -/
abbrev ServerDraft := ServerSettings (Section TlsSettings)

/-- The settings of a document that may still hold anything. -/
abbrev Draft := Settings (Section ServerDraft) (Section LogSettings)

/-- The value under a name, or else a default. -/
def setting (name : Text) (default : Value) (entries : List (Value × Value)) : Value :=
  (Value.field? name entries).getD default

namespace TlsSettings

/-- The settings that entries describe; entries under other names do not count. -/
def ofEntries (entries : List (Value × Value)) : TlsSettings where
  verify := setting "verify" (.bool true) entries
  authorities := setting "ca_file" (.text "") entries
  certificate := setting "client_cert" (.text "") entries
  key := setting "client_key" (.text "") entries

/-- The settings as a value. -/
def toValue (settings : TlsSettings) : Value :=
  .record [("verify", settings.verify), ("ca_file", settings.authorities),
    ("client_cert", settings.certificate), ("client_key", settings.key)]

end TlsSettings

namespace ServerSettings

/-- The settings that entries describe; entries under other names do not count. -/
def ofEntries (entries : List (Value × Value)) : ServerDraft where
  endpoints := setting "endpoints" (.list []) entries
  apiKey := setting "api_key" (.text "") entries
  timeout := setting "timeout" (.int 10) entries
  tls := Section.named TlsSettings.ofEntries "tls" entries

/-- The settings as a value, where `write` does so for the security of connections. -/
def toValue {τ : Type} (write : τ → Value) (settings : ServerSettings τ) : Value :=
  .record [("endpoints", settings.endpoints), ("api_key", settings.apiKey),
    ("timeout", settings.timeout), ("tls", write settings.tls)]

end ServerSettings

namespace LogSettings

/-- The settings that entries describe; entries under other names do not count. -/
def ofEntries (entries : List (Value × Value)) : LogSettings where
  level := setting "level" (.text "INFO") entries
  format := setting "format" (.text "json") entries

/-- The settings as a value. -/
def toValue (settings : LogSettings) : Value :=
  .record [("level", settings.level), ("format", settings.format)]

end LogSettings

namespace Settings

/-- The settings that entries describe; entries under other names do not count. -/
def ofEntries (entries : List (Value × Value)) : Draft where
  server := Section.named ServerSettings.ofEntries "server" entries
  logging := Section.named LogSettings.ofEntries "logging" entries

/-- The settings as a value, where `server` and `logging` do so for the sections. -/
def toValue {α β : Type} (server : α → Value) (logging : β → Value) (settings : Settings α β) :
    Value :=
  .record [("server", server settings.server), ("logging", logging settings.logging)]

end Settings

/-- A server section as a value, whatever it holds. -/
def ServerSettings.draftValue (settings : ServerDraft) : Value :=
  settings.toValue (Section.toValue TlsSettings.toValue)

/-- A document's settings as a value, whatever they hold. -/
def Settings.draftValue (settings : Draft) : Value :=
  settings.toValue (Section.toValue ServerSettings.draftValue) (Section.toValue LogSettings.toValue)

end KeyCluster
