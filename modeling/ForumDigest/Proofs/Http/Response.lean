import ForumDigest.Http.Reply

namespace ForumDigest.Http

variable {cs ds : List Char} {n : UInt64}

namespace Response

variable {r : Response} {name text : String} {value : List Char}

end Response

end ForumDigest.Http
