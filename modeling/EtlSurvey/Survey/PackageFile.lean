import EtlSurvey.Container.Folder
import EtlSurvey.Survey.Package

/-! Surveying packages, given by the bytes of their documents or by the paths of their files. -/

namespace EtlSurvey
open Text Markup

/-- Surveys a package; the error is given besides the failed survey. -/
def surveyWithError (c : Config) (source : String) (bytes : Bytes) :
    PackageSurvey × Option PackageError :=
  match Document.parsePackage bytes with
  | .error e => (.failed c source (fallbackName source) [] (.load e), some (.load e))
  | .ok d =>
    let opened := openPackage c source d
    match opened.value with
    | (metadata, _, some refusal) =>
      let before := diagnosticsOf c source opened.remarks
      (.failed c source metadata.name before (.encryption refusal), some (.encryption refusal))
    | (metadata, policy, none) =>
      let ⟨(package, total, supported), remarks⟩ := readDocument c policy metadata d
      (⟨package, reportOf c source package total supported (opened.remarks ++ remarks)⟩, none)

/-- Surveys a package; failures are in the report. -/
def surveyPackage (c : Config) (source : String) (bytes : Bytes) : PackageSurvey :=
  (surveyWithError c source bytes).1

/-- Surveys a package; failures are errors. -/
def trySurveyPackage (c : Config) (source : String) (bytes : Bytes) :
    Except PackageError PackageSurvey :=
  match surveyWithError c source bytes with
  | (s, none) => .ok s
  | (_, some e) => .error e

/-- The bytes of a document's file. -/
def readDocumentFile (disk : Folder) (path : String) : Except LoadError Bytes :=
  if !disk.contains path then .error (.notFound path)
  else match disk.read path with
    | .ok bytes => .ok bytes
    | .error e => .error (.unreadable path e.message)

/-- Surveys the package in a file; failures are in the report. -/
def surveyPackageFile (c : Config) (disk : Folder) (path : String) : PackageSurvey :=
  match readDocumentFile disk path with
  | .ok bytes => surveyPackage c path bytes
  | .error e => .failed c path (fallbackName path) [] (.load e)

end EtlSurvey
