import EtlSurvey.Json.Record
import EtlSurvey.Text.Basic

/-! Kinds of executables: tasks and containers of the control flow. -/

namespace EtlSurvey
open Text Json

/-- A type name without assembly qualifiers and without a version number at its end, in lower
case. -/
def typeMoniker (raw : String) : String :=
  let head := trimList (raw.toList.takeWhile (· != ',')) |>.map Char.toLower
  let version := head.reverse.takeWhile (· != '.')
  match head.reverse.drop version.length with
  | _ :: before =>
    if !version.isEmpty && version.all Char.isDigit then String.ofList before.reverse
    else String.ofList head
  | [] => String.ofList head

inductive ExecutableKind where
  | executeSql
  | dataFlow
  | script
  | sequenceContainer
  | forEachLoop
  | forLoop
  | bulkInsert
  | executePackage
  | fileSystem
  | ftp
  | sendMail
  | webService
  /-- A type outside the table. -/
  | unsupported (raw : String)
  deriving DecidableEq, Repr, Inhabited

namespace ExecutableKind

def ofTypeName (raw : String) : ExecutableKind :=
  match typeMoniker raw with
  | "microsoft.executesqltask" | "microsoft.sqlserver.dts.tasks.executesqltask.executesqltask"
  | "stock:sqltask" => executeSql
  | "microsoft.pipeline" | "microsoft.sqlserver.dts.pipeline.wrapper.taskhost"
  | "stock:pipelinetask" | "ssis.pipeline" => dataFlow
  | "microsoft.scripttask" | "microsoft.sqlserver.dts.tasks.scripttask.scripttask" => script
  | "stock:sequence" => sequenceContainer
  | "stock:foreachloop" => forEachLoop
  | "stock:forloop" => forLoop
  | "microsoft.bulkinserttask" => bulkInsert
  | "microsoft.executepackagetask" | "ssis.executepackagetask" => executePackage
  | "microsoft.filesystemtask" => fileSystem
  | "microsoft.ftptask" => ftp
  | "microsoft.sendmailtask" => sendMail
  | "microsoft.webservicetask" => webService
  | _ => unsupported raw

def isSupported : ExecutableKind → Bool
  | unsupported _ => false
  | _ => true

/-- Containers hold other executables. -/
def isContainer : ExecutableKind → Bool
  | sequenceContainer | forEachLoop | forLoop => true
  | _ => false

/-- Tasks that move data in from outside the warehouse. -/
def isIngestion : ExecutableKind → Bool
  | bulkInsert | fileSystem | ftp | webService => true
  | _ => false

def isLoop : ExecutableKind → Bool
  | forEachLoop | forLoop => true
  | _ => false

/-- Name for readers. -/
def name : ExecutableKind → String
  | executeSql => "ExecuteSQL"
  | dataFlow => "DataFlow"
  | script => "ScriptTask"
  | sequenceContainer => "SequenceContainer"
  | forEachLoop => "ForEachLoop"
  | forLoop => "ForLoop"
  | bulkInsert => "BulkInsert"
  | executePackage => "ExecutePackage"
  | fileSystem => "FileSystem"
  | ftp => "FTP"
  | sendMail => "SendMail"
  | webService => "WebService"
  | unsupported raw => raw

def cases : List (String × ExecutableKind) := [
  ("execute_sql", executeSql), ("data_flow", dataFlow), ("script", script),
  ("sequence_container", sequenceContainer), ("for_each_loop", forEachLoop),
  ("for_loop", forLoop), ("bulk_insert", bulkInsert), ("execute_package", executePackage),
  ("file_system", fileSystem), ("ftp", ftp), ("send_mail", sendMail),
  ("web_service", webService)]

def toJson : ExecutableKind → Value
  | executeSql => .text "execute_sql"
  | dataFlow => .text "data_flow"
  | script => .text "script"
  | sequenceContainer => .text "sequence_container"
  | forEachLoop => .text "for_each_loop"
  | forLoop => .text "for_loop"
  | bulkInsert => .text "bulk_insert"
  | executePackage => .text "execute_package"
  | fileSystem => .text "file_system"
  | ftp => .text "ftp"
  | sendMail => .text "send_mail"
  | webService => .text "web_service"
  | unsupported raw => unsupportedJson raw

def ofJson? : Value → Option ExecutableKind := openCaseOf? cases unsupported

end ExecutableKind
end EtlSurvey
