import EndpointCountry.Datum.Json
import EndpointCountry.Delimited.Reader
import EndpointCountry.Delimited.Writer
import EndpointCountry.Path
import EndpointCountry.Storage
import EndpointCountry.Tagging.Transform

/-!
# Tagging a file

A file is read, its table tagged, and the tagged table written, with a summary beside it unless the
settings do without. Nothing is written before the whole table is tagged and laid out.
-/

namespace EndpointCountry.Tagging

/-- The path of the tagged file. -/
def outputFile (o : Config.Output) : String :=
  Path.join o.path o.tableName

/-- The path of the summary: it is called after the tagged file. -/
def summaryFile (o : Config.Output) : String :=
  Path.join o.path ((Path.fileStem? o.tableName).getD o.tableName ++ ".summary.json")

/-- The content of the summary. -/
def summaryBytes (s : Summary) : ByteArray :=
  s.toDatum.indented.toUTF8

/-- The table in the content of a file. -/
def tableOfBytes (input : Config.Input) (content : ByteArray) : Except Fault Delimited.Table := do
  let delimiter ← input.delimiterByte
  (Delimited.read delimiter content.data.toList).mapError .delimited

/-- The content of the file for a table. -/
def bytesOfTable (input : Config.Input) (table : Delimited.Table) : Except Fault ByteArray := do
  let delimiter ← input.delimiterByte
  let bytes ← (Delimited.write delimiter table).mapError .delimited
  pure ⟨bytes.toArray⟩

variable {m : Type → Type} [Monad m]

/-- Reads the table that is to be tagged. -/
def extract (storage : Storage m) (config : Config.Batch) : ExceptT Fault m Delimited.Table := do
  let content ← storage.read config.input.path
  ExceptT.mk (pure (tableOfBytes config.input content))

/-- Writes a tagged table and its summary, and tells the path of the table. -/
def load (storage : Storage m) (config : Config.Batch) (result : Result) :
    ExceptT Fault m String := do
  let content ← ExceptT.mk (pure (bytesOfTable config.input result.table))
  storage.write (outputFile config.output) content
  if config.output.wantsSummary then
    storage.write (summaryFile config.output) (summaryBytes result.summary)
  pure (outputFile config.output)

/-- Tags a file. -/
def run (storage : Storage m) (mapper : Mapper) (config : Config.Batch) (generatedAt : String) :
    ExceptT Fault m String := do
  let table ← extract storage config
  let result ← ExceptT.mk (pure (transform mapper config generatedAt table))
  load storage config result

end EndpointCountry.Tagging
