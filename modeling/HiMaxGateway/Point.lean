/-! Points of the devices, as plugins and configuration name them. -/
namespace HiMaxGateway

/-- The members of `PointFeature_u` that Modbus plugins report and Modbus points are configured
with. -/
inductive PointFeature where
  | unknown
  | panelSwitch
  | panelSwitchStatus
  | acdSwitch
  | acdTemp
  | acdMode
  | acdSpeed
  | acdEnvTemp
  | acdErrorCode
  | heatSwitch
  | heatTemp
  | heatEnvTemp
  | ventSwitch
  | ventSpeed
  | ventWindDir
  | ventMode
  | ventValve
  | ventHumi
  | ventEnvTemp
  | ventEnvHumi
  | curtainSwitch
  | aqiTemp
  | aqiHumi
  | aqiPm25
  | aqiCo2
  | humidifierSwitch
  | humidifierHumiditySet
  | purifierFlow
  | purifierTds
  | purifierPpFilterTime
  | purifierReset
  /-- Any other number. -/
  | other (code : Nat)
  deriving DecidableEq, Repr

/-- The member with a number; the plugins also store numbers they count out themselves. -/
def PointFeature.ofCode : Nat → PointFeature
  | 0 => .unknown
  | 100 => .panelSwitch
  | 101 => .panelSwitchStatus
  | 200 => .acdSwitch
  | 202 => .acdTemp
  | 204 => .acdMode
  | 206 => .acdSpeed
  | 212 => .acdEnvTemp
  | 213 => .acdErrorCode
  | 300 => .heatSwitch
  | 302 => .heatTemp
  | 304 => .heatEnvTemp
  | 400 => .ventSwitch
  | 402 => .ventSpeed
  | 404 => .ventWindDir
  | 406 => .ventMode
  | 408 => .ventValve
  | 410 => .ventHumi
  | 412 => .ventEnvTemp
  | 413 => .ventEnvHumi
  | 500 => .curtainSwitch
  | 600 => .aqiTemp
  | 601 => .aqiHumi
  | 602 => .aqiPm25
  | 603 => .aqiCo2
  | 700 => .humidifierSwitch
  | 701 => .humidifierHumiditySet
  | 801 => .purifierFlow
  | 802 => .purifierTds
  | 803 => .purifierPpFilterTime
  | 804 => .purifierReset
  | code => .other code

end HiMaxGateway
