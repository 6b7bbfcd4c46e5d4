import Fingerprint.Text.Basic

/-! # Records

A record is one message for the diagnostic log, with its level. A logger lets through what is at
least as severe as its own level. -/
set_option autoImplicit false
namespace Fingerprint

inductive Level where
  | debug
  | info
  | warning
  | error
deriving DecidableEq

namespace Level

def all : List Level := [debug, info, warning, error]

def name : Level → Text
  | debug => "debug"
  | info => "info"
  | warning => "warning"
  | error => "error"

def label : Level → Text
  | debug => "DEBUG"
  | info => "INFO"
  | warning => "WARNING"
  | error => "ERROR"

def severity : Level → Nat
  | debug => 10
  | info => 20
  | warning => 30
  | error => 40

def ofName? (t : Text) : Option Level := all.find? fun l => l.name == t

end Level

structure Record where
  level : Level
  message : Text
deriving DecidableEq

end Fingerprint
