import BracketBalance.CommandLine.Arguments
import BracketBalance.Log.Filter

namespace BracketBalance.Platform

/-- Options as they are usually written, and a log without times and colours. -/
def standard : Platform where
  parse arguments := Request.files (Request.ofArguments [] arguments)
  requested log := (log.bind Filter.ofBytes?).map Filter.shows
  filter text := ((Filter.ofText? text.toList).getD []).shows
  deliver shown events := events.filter shown
  line _ event := event.level.label ++ " " ++ event.target ++ ": " ++ event.message

end BracketBalance.Platform
