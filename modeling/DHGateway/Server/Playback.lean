import DHGateway.Server.RecordList
import DHGateway.Server.Routing

/-!
# Playing back a record of a list

The times of a record are numbers of the SDK, digits in `query_record_file`, and texts with dashes
in the response, which the platform sends back in a `CHANNEL_PLAYBACK`. There `sscanf` makes numbers
for the SDK of them again, and they are all read.
-/

namespace DHGateway

open Json
open Scan (Moment)

namespace Server

variable {env : Env} {s : Server} {doc : Document} {a : TaskInput} {login : LoginResults}

end Server

end DHGateway
