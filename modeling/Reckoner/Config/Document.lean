import Reckoner.Config

/-!
# Configurations as documents

A configuration can be written as a document and read from one.  How that is
done is up to the format of the documents: it can fail on the way in and on the
way out, and says why.  What has been read is checked before it is used.
-/

namespace Reckoner

/-- How configurations are written and read, with the cause where this fails.
Neither way checks a configuration. -/
structure DocumentFormat where
  write : Config → Except String String
  read : String → Except String Config

namespace Config

variable (format : DocumentFormat)

/-- The document of a configuration. -/
def document (config : Config) : Except ConfigError String :=
  (format.write config).mapError .malformed

/-- Reads the document of a valid configuration. -/
def ofDocument (document : String) : Configured Config :=
  match format.read document with
  | .error cause => throw (.malformed cause)
  | .ok config => do
      config.validate
      return config

end Config

end Reckoner
