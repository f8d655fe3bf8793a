import TestDaemon.Tool.Launching
import TestDaemon.Tool.Matching

/-! # The tools of the system -/

namespace TestDaemon

namespace Tool

/-- The tools by their names. -/
def catalog : List (String × Tool) :=
  [("true", fun _ => return 0), ("false", fun _ => return 1), ("sync", fun _ => return 0),
    ("[", Condition.run true), ("basename", basename), ("cat", cat), ("chmod", chmod), ("cmp", cmp),
    ("comm", comm), ("cp", cp), ("cut", cut), ("dirname", dirname), ("echo", echo), ("egrep", grep 'E'),
    ("env", env), ("expr", expr), ("fgrep", grep 'F'), ("fold", fold), ("grep", grep 'G'),
    ("head", showEnds true), ("kill", kill), ("ln", ln), ("ls", ls), ("mkdir", mkdir), ("mktemp", mktemp),
    ("mv", mv), ("nice", nice), ("nl", nl), ("nohup", nohup), ("paste", paste), ("printenv", printenv),
    ("printf", printf), ("pwd", pwd), ("readlink", readlink), ("realpath", realpath), ("rev", rev),
    ("rm", rm), ("rmdir", rmdir), ("seq", seq), ("sleep", sleep), ("sort", sort), ("tac", tac),
    ("tail", showEnds false), ("tee", tee), ("test", Condition.run false), ("timeout", timeout),
    ("touch", touch), ("tr", tr), ("truncate", truncate), ("tty", tty), ("uname", uname), ("uniq", uniq),
    ("unlink", unlink), ("wc", wc), ("xargs", xargs), ("yes", yes)]

end Tool

end TestDaemon
