/-!
Why an environment does not make up the settings of a bridge.
-/
namespace FleetBridge

/-- What is wrong with the value of a variable. -/
inductive SettingFlaw where
  | notAnInteger
  | mustBePositive
  | notANumber
  | mustBeAtLeastOne
  | malformedUrl
  | unsupportedScheme
  | missingHost
  | invalidSubject
  | belowInitialDelay
  | notASocketAddress
  deriving DecidableEq, Repr

def SettingFlaw.code : SettingFlaw → String
  | notAnInteger => "not_an_integer"
  | mustBePositive => "must_be_positive"
  | notANumber => "not_a_number"
  | mustBeAtLeastOne => "must_be_at_least_one"
  | malformedUrl => "malformed_url"
  | unsupportedScheme => "unsupported_scheme"
  | missingHost => "missing_host"
  | invalidSubject => "invalid_subject_prefix"
  | belowInitialDelay => "below_initial_delay"
  | notASocketAddress => "not_a_socket_address"

inductive SettingFault where
  | missing (name : String)
  | selection (value : String)
  | invalid (name value : String) (flaw : SettingFlaw)
  deriving DecidableEq, Repr

def SettingFault.message : SettingFault → String
  | missing _ => "missing configuration value"
  | selection _ => "invalid channel selector"
  | invalid .. => "invalid configuration field"

end FleetBridge
