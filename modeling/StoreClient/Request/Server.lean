import StoreClient.Request

/-!
# `StoreClient/Request/Server.lean` — the server and the connection to it
-/

set_option autoImplicit false

namespace StoreClient

namespace Request

def auth (password : Bytes) : Request :=
  of "AUTH" [password] .status

def select (index : Int64) : Request :=
  ((Command.ofKeyword "SELECT").int index).expecting .status

def ping : Request := of "PING" [] .status

def dbSize : Request := of "DBSIZE" [] .integer

/-- When the data was last saved, in seconds. -/
def lastSave : Request := of "LASTSAVE" [] .integer

def flushDb : Request := of "FLUSHDB" [] .status

def flushAll : Request := of "FLUSHALL" [] .status

def save : Request := of "SAVE" [] .status

def bgSave : Request := of "BGSAVE" [] .status

def bgRewriteAof : Request := of "BGREWRITEAOF" [] .status

/-- What the server has to say about itself, as fields with their values. -/
def info : Request := of "INFO" [] .info

/-- The settings whose names match a pattern, with their values. -/
def configGet (parameter : Bytes) : Request :=
  of "CONFIG" [Bytes.ofAscii "GET", parameter] .entries

def configSet (parameter value : Bytes) : Request :=
  of "CONFIG" [Bytes.ofAscii "SET", parameter, value] .status

end Request

end StoreClient
