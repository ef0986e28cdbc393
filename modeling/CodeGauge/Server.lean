import CodeGauge.Chat.Gemini
import CodeGauge.Http.Api

/-!
This module contains the start of the server and what it logs.
-/

namespace CodeGauge.Server


/--
How the server is run.
-/
structure Launch where
  target : String
  host : String
  port : Int
  reload : Bool
  logLevel : String

def launch (settings : Settings) : Launch :=
  { target := "app.main:app"
    host := settings.host
    port := settings.port
    reload := settings.debug
    logLevel := settings.logLevel.lowerName }

/--
The lines of the log before the server is run.
-/
def launchLogs (settings : Settings) : List LogLine :=
  [.info s!"Code Analyzer backend listening on http://{settings.host}:{settings.port}"]

/--
The lines of the log when the server has started.
-/
def startLogs (settings : Settings) (gemini : Gemini.Client) : List LogLine :=
  [
    .info s!"Code Complexity Analyzer v{Http.version} starting",
    .info s!"Server: {settings.host}:{settings.port}",
    if gemini.available then
      .info s!"AI analysis enabled (model={gemini.model})"
    else
      .warning
        s!"GEMINI_API_KEY not set; {Http.Route.analyzeByModel.path} will fail until provided"]

/--
The lines of the log when the server stops.
-/
def stopLogs : List LogLine :=
  [.info "Shutting down..."]

end CodeGauge.Server
