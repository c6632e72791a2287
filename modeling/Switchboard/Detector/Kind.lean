/-!
# Kinds of detectors, and what they say

Settings choose a detector by name. Several names may mean the same kind: `anyprot` and `timeout`
both name the detector that accepts everything.

A detector sees the beginning of a client's stream and says one of three things about it, its
`Verdict`.
-/

namespace Switchboard

/-! ## Verdicts -/

/-- What a detector says of the bytes seen so far. -/
inductive Verdict
  /-- The stream is of the detector's protocol. -/
  | accept
  /-- The stream cannot be of the detector's protocol. -/
  | reject
  /-- More bytes are needed to tell. -/
  | wait
  deriving DecidableEq, Repr

namespace Verdict

/-- A question that the bytes at hand settle. -/
def ofBool (matched : Bool) : Verdict := if matched then accept else reject

def label : Verdict → String
  | accept => "PROBE_MATCH"
  | reject => "PROBE_NEXT"
  | wait => "PROBE_AGAIN"

@[simp] theorem ofBool_eq_accept {b : Bool} : ofBool b = accept ↔ b = true := by
  cases b <;> simp [ofBool]

@[simp] theorem ofBool_eq_reject {b : Bool} : ofBool b = reject ↔ b = false := by
  cases b <;> simp [ofBool]

@[simp] theorem ofBool_ne_wait (b : Bool) : ofBool b ≠ wait := by
  cases b <;> simp [ofBool]

end Verdict

/-! ## Kinds -/

/-- What a detector looks for, without the data that some kinds are given. -/
inductive Kind
  | ssh
  | openVpn
  | tinc
  | xmpp
  | http
  | tls
  | adb
  | socks5
  /-- Patterns given in the settings. -/
  | pattern
  /-- Anything at all. -/
  | always
  deriving DecidableEq, Repr

namespace Kind

def label : Kind → String
  | ssh => "Ssh"
  | openVpn => "OpenVpn"
  | tinc => "Tinc"
  | xmpp => "Xmpp"
  | http => "Http"
  | tls => "Tls"
  | adb => "Adb"
  | socks5 => "Socks5"
  | pattern => "Regex"
  | always => "Always"

/-- The detectors that need no data, and `tls`, in the order in which they are usually tried. -/
def builtin : List (String × Kind) :=
  [("ssh", ssh), ("openvpn", openVpn), ("tinc", tinc), ("xmpp", xmpp), ("http", http),
    ("tls", tls), ("adb", adb), ("socks5", socks5), ("anyprot", always)]

def patternName : String := "regex"

/-- The name of a detector that accepts everything, for clients that stay silent. -/
def timeoutName : String := "timeout"

/-- Every name that settings may use. -/
def named : List (String × Kind) :=
  builtin ++ [(patternName, pattern), (timeoutName, always)]

/-- The kind that a name refers to; names are told apart by case. -/
def ofName? (name : String) : Option Kind :=
  named.lookup name

def builtinNames : List String := builtin.map (·.1)

end Kind

end Switchboard
