import EtlSurvey.Report.Format
import EtlSurvey.Storage

/-! Reports as texts and in files. -/

namespace EtlSurvey
open Text Json

def PackageReport.print (r : PackageReport) : String := r.toJson.printIndented

def PackageReport.read? (s : String) : Option PackageReport := (Value.read? s).bind ofJson?

/-- The folder after a report has been written. -/
def PackageReport.save? (r : PackageReport) (disk : Folder) (path : String) : Option Folder :=
  disk.write? path (Utf8.encode r.print)

def PackageReport.load? (disk : Folder) (path : String) : Option PackageReport :=
  ((disk.read path).toOption.bind Utf8.decode?).bind read?

def ProjectReport.print (r : ProjectReport) : String := r.toJson.printIndented

def ProjectReport.read? (s : String) : Option ProjectReport := (Value.read? s).bind ofJson?

/-- The folder after a report has been written. -/
def ProjectReport.save? (r : ProjectReport) (disk : Folder) (path : String) : Option Folder :=
  disk.write? path (Utf8.encode r.print)

def ProjectReport.load? (disk : Folder) (path : String) : Option ProjectReport :=
  ((disk.read path).toOption.bind Utf8.decode?).bind read?

end EtlSurvey
