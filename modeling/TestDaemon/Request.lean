import TestDaemon.Text.Blank
import TestDaemon.Text.Utf8

/-! # Requests on the wire

A request is a body followed by a delimiter. A body that starts with `CMD` is a line of text, one
that starts with `DPL` carries an archive. The delimiter is not escaped inside a body.

| request | body | reply on success |
|---|---|---|
| deploy | `DPL ` and the archive's bytes | `OK DPL <id>` |
| undeploy | `CMD undeploy <id>` | `OK <id>` |
| stop | `CMD stop` | `OK CMD stop` |
| test | `CMD test <id> <class> <method>` | the encoded result |
-/

namespace TestDaemon

namespace Request

/-- The end of every request, `<<EOF`. -/
def delimiter : Bytes := [0x3C, 0x3C, 0x45, 0x4F, 0x46]

/-- The marker of a line of text, `CMD`. -/
def commandMarker : Bytes := [0x43, 0x4D, 0x44]

/-- The marker of an archive, `DPL`. -/
def deployMarker : Bytes := [0x44, 0x50, 0x4C]

/-- The text of the marker and the blank before an archive. -/
def deployHead : String := "DPL "

def stopCommand : String := "CMD stop"

def undeployHead : String := "CMD undeploy "

def testHead : String := "CMD test "

def undeployCommand (id : String) : String := undeployHead ++ id

def testCommand (id className method : String) : String :=
  testHead ++ id ++ " " ++ className ++ " " ++ method

/-- A complete request for a line of text. -/
def ofCommand (text : String) : Bytes := Utf8.encode text ++ delimiter

/-- A complete request that deploys an archive. -/
def ofDeploy (archive : Bytes) : Bytes := Utf8.encode deployHead ++ archive ++ delimiter

end Request

/-- What the first three bytes of a body announce. -/
inductive Marker where
  | command
  | deploy
  | unknown
  | incomplete
  deriving DecidableEq, Repr

def Marker.of (body : Bytes) : Marker :=
  if body.length < 3 then incomplete
  else if body.take 3 = Request.commandMarker then command
  else if body.take 3 = Request.deployMarker then deploy
  else unknown

end TestDaemon
