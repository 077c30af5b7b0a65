namespace RuleLint.Unicode

/-- Runs from U+0000 on: V for valid, I for ignored, M for mapped, X for refused, and the length of
the run. -/
def domainStatusRuns : List String := [
  "V1t Mq V11 Xw M1 V7 M1 V1 M1 V2 I1 V1 M1 V2 M4 V2 M3 V1 M3 V1 Mn V1 M7 Vx M1 V1 M1 V1 M1 V1 M1",
  "V1 M1 V1 M1 V1 M1 V1 M1 V1 M1 V1 M1 V1 M1 V1 M1 V1 M1 V1 M1 V1 M1 V1 M1 V1 M1 V1 M1 V1 M1 V1 M1",
  "V1 M1 V1 M1 V1 M1 V1 M1 V1 M1 V1 M3 V1 M1 V2 M1 V1 M1 V1 M1 V1 M3 V1 M1 V1 M1 V1 M1 V1 M2 V1 M1",
  "V1 M1 V1 M1 V1 M1 V1 M1 V1 M1 V1 M1 V1 M1 V1 M1 V1 M1 V1 M1 V1 M1 V1 M1 V1 M1 V1 M1 V1 M1 V1 M1",
  "V1 M1 V1 M1 V1 M1 V1 M1 V1 M1 V1 M2 V1 M1 V1 M1 V1 M1 V1 M2 V1 M1 V1 M2 V1 M3 V2 M4 V1 M2 V1 M3",
  "V3 M2 V1 M2 V1 M1 V1 M1 V1 M2 V1 M1 V2 M1 V1 M2 V1 M3 V1 M1 V1 M2 V3 M1 V7 Ma V1 M1 V1 M1 V1 M1",
  "V1 M1 V1 M1 V1 M1 V1 M1 V2 M1 V1 M1 V1 M1 V1 M1 V1 M1 V1 M1 V1 M1 V1 M1 V1 M1 V2 M4 V1 M3 V1 M1",
  "V1 M1 V1 M1 V1 M1 V1 M1 V1 M1 V1 M1 V1 M1 V1 M1 V1 M1 V1 M1 V1 M1 V1 M1 V1 M1 V1 M1 V1 M1 V1 M1",
  "V1 M1 V1 M1 V1 M1 V1 M1 V1 M1 V1 M1 V1 M1 V1 M1 V1 M1 V1 M1 V1 M1 V1 M1 V7 M2 V1 M2 V2 M1 V1 M4",
  "V1 M1 V1 M1 V1 M1 V1 M1 V2p M9 Vv M6 V2 M5 V2j M2 V1 M3 V9 I1 Vw M1 V1 M1 V1 M1 V1 M1 V1 X2 M1",
  "V3 M2 X4 M7 X1 M1 X1 M2 V1 Mh X1 M9 Vz M8 V1 M1 V1 M1 V1 M1 V1 M1 V1 M1 V1 M1 V1 M1 V1 M1 V1 M1",
  "V1 M1 V1 M1 V1 M1 V1 M3 V1 M2 V1 M1 V1 M2 V2 M1f V1c M1 V1 M1 V1 M1 V1 M1 V1 M1 V1 M1 V1 M1 V1",
  "M1 V1 M1 V1 M1 V1 M1 V1 M1 V1 M1 V1 M1 V1 M1 V1 M1 V1 M1 V9 M1 V1 M1 V1 M1 V1 M1 V1 M1 V1 M1 V1",
  "M1 V1 M1 V1 M1 V1 M1 V1 M1 V1 M1 V1 M1 V1 M1 V1 M1 V1 M1 V1 M1 V1 M1 V1 M1 V1 M1 V1 M1 V1 M1 V1",
  "M1 V1 M1 V1 M1 V1 M1 V1 M1 V1 M2 V1 M1 V1 M1 V1 M1 V1 M1 V1 M1 V1 M1 V2 M1 V1 M1 V1 M1 V1 M1 V1",
  "M1 V1 M1 V1 M1 V1 M1 V1 M1 V1 M1 V1 M1 V1 M1 V1 M1 V1 M1 V1 M1 V1 M1 V1 M1 V1 M1 V1 M1 V1 M1 V1",
  "M1 V1 M1 V1 M1 V1 M1 V1 M1 V1 M1 V1 M1 V1 M1 V1 M1 V1 M1 V1 M1 V1 M1 V1 M1 V1 M1 V1 M1 V1 M1 V1",
  "M1 V1 M1 V1 M1 V1 M1 V1 M1 V1 M1 V1 M1 V1 M1 V1 M1 V1 M1 V1 M1 V1 M1 V1 X1 M12 X2 V1a M1 V3 X2",
  "V3 X1 V1j X8 Vr X4 V6 Xh Vm X1 V2g M4 V2s X1 V1c X2 V1n X2 V2t Xe V1n X2 V1d X2 Vf X1 Vs X2 V1",
  "X1 Vb X5 Vw X7 V23 X1 V39 M8 V10 X1 V8 X2 V2 X2 Vm X1 V7 X1 V1 X3 V4 X2 V9 X2 V2 X2 V4 X8 V1 X4",
  "M2 X1 M1 V4 X2 Vp X2 V3 X1 V6 X4 V2 X2 Vm X1 V7 X1 V1 M1 X1 V1 M1 X1 V2 X2 V1 X1 V5 X4 V2 X2 V3",
  "X3 V1 X7 M3 V1 X1 M1 X7 Vh Xa V3 X1 V9 X1 V3 X1 Vm X1 V7 X1 V2 X1 V5 X2 Va X1 V3 X1 V3 X2 V1 Xf",
  "V4 X2 Vc X7 V7 X1 V3 X1 V8 X2 V2 X2 Vm X1 V7 X1 V2 X1 V5 X2 V9 X2 V2 X2 V3 X7 V3 X4 M2 X1 V5 X2",
  "Vi Xa V2 X1 V6 X3 V3 X1 V4 X3 V2 X1 V1 X1 V2 X3 V2 X3 V3 X3 Vc X4 V5 X3 V3 X1 V4 X2 V1 X6 V1 Xe",
  "Vl X5 Vd X1 V3 X1 Vn X1 Vg X2 V9 X1 V3 X1 V4 X7 V2 X1 V3 X1 V2 X2 V4 X2 Va X7 Vm X1 V3 X1 Vn X1",
  "Va X1 V5 X2 V9 X1 V3 X1 V4 X7 V2 X5 V3 X1 V4 X2 Va X1 V3 Xc Vd X1 V3 X1 V1f X1 V3 X1 V6 X4 Vg",
  "X2 Vq X1 V3 X1 Vi X3 Vo X1 V9 X1 V1 X2 V7 X3 V1 X4 V6 X1 V1 X1 V8 X6 Va X2 V3 Xc V1e M1 V7 X4",
  "Vt X11 V2 X1 V1 X1 V5 X1 Vo X1 V1 X1 Vc M1 Va X2 V5 X1 V1 X1 V7 X1 Va X2 M2 V2 Xw Vc M1 V1i M1",
  "V4 X1 V4 M1 V4 M1 V4 M1 V4 M1 Vc M1 V3 X4 V2 M1 V1 M5 V7 M1 Vh M1 V4 X1 V4 M1 V4 M1 V4 M1 V4 M1",
  "Vc M1 V3 X1 Vf X1 Vd X11 V4g M12 X1 M1 X5 M1 X2 V18 M1 V2q I2 V6g X1 V4 X2 V7 X1 V1 X1 V4 X2",
  "V15 X1 V4 X2 Vx X1 V4 X2 V7 X1 V1 X1 V4 X2 Vf X1 V1l X1 V4 X2 V1v X2 Vw X3 Vq X6 V2e X2 M6 X2",
  "Vhs X1 Vs X3 V2h X7 Vm X9 Vo X9 Vk Xc Vd X1 V3 X1 V2 Xc V1g I2 V14 X2 Va X6 Va X6 Vb I5 Va X6",
  "V2h X7 V17 X5 V1y Xa Vv X1 Vc X4 Vc X4 V1 X3 V16 X2 V5 Xb V18 X4 Vq X6 Vb X3 V1q X2 V1t X1 Vt",
  "X2 Vb X6 Va X6 Ve X2 V1a X2 Vc Xk V25 X1 V4m X8 V1o X3 Vf X3 V1f Ma V1 X5 M17 X2 M3 V8 X8 V17",
  "X5 V18 M3 V1 Mb V1 Mi V1 Ms Vd M1 Vy M11 V1s M1 V1 M1 V1 M1 V1 M1 V1 M1 V1 M1 V1 M1 V1 M1 V1 M1",
  "V1 M1 V1 M1 V1 M1 V1 M1 V1 M1 V1 M1 V1 M1 V1 M1 V1 M1 V1 M1 V1 M1 V1 M1 V1 M1 V1 M1 V1 M1 V1 M1",
  "V1 M1 V1 M1 V1 M1 V1 M1 V1 M1 V1 M1 V1 M1 V1 M1 V1 M1 V1 M1 V1 M1 V1 M1 V1 M1 V1 M1 V1 M1 V1 M1",
  "V1 M1 V1 M1 V1 M1 V1 M1 V1 M1 V1 M1 V1 M1 V1 M1 V1 M1 V1 M1 V1 M1 V1 M1 V1 M1 V1 M1 V1 M1 V1 M1",
  "V1 M1 V1 M1 V1 M1 V1 M1 V1 M1 V1 M1 V1 M1 V1 M1 V1 M1 V1 M1 V1 M1 V1 M1 V1 M1 V1 M1 V1 M1 V1 M1",
  "V1 M1 V1 M1 V5 M2 V2 M1 V1 M1 V1 M1 V1 M1 V1 M1 V1 M1 V1 M1 V1 M1 V1 M1 V1 M1 V1 M1 V1 M1 V1 M1",
  "V1 M1 V1 M1 V1 M1 V1 M1 V1 M1 V1 M1 V1 M1 V1 M1 V1 M1 V1 M1 V1 M1 V1 M1 V1 M1 V1 M1 V1 M1 V1 M1",
  "V1 M1 V1 M1 V1 M1 V1 M1 V1 M1 V1 M1 V1 M1 V1 M1 V1 M1 V1 M1 V1 M1 V1 M1 V1 M1 V1 M1 V1 M1 V1 M1",
  "V1 M1 V1 M1 V1 M1 V1 M1 V9 M8 V6 X2 M6 X2 V8 M8 V8 M8 V6 X2 M6 X2 V8 X1 M1 X1 M1 X1 M1 X1 M1 V8",
  "M8 V1 M1 V1 M1 V1 M1 V1 M1 V1 M1 V1 M1 V1 M1 X2 M1c V2 M3 X1 V1 Me X1 V1 M9 V3 M1 X2 V2 M4 X1",
  "M3 V3 M1 V4 M8 X2 M3 X1 V1 M8 X1 Mb I1 V2 X2 V1 M1 V5 M1 Vc X3 V1 X7 M1 V3 M2 V1 M2 V4 M1 V1 M1",
  "V8 M3 Vd M1 V7 M1 I5 X5 I6 M2 X2 Mr X1 Md X3 V8 M1 Vp Xe Vx Xf M4 V1 M3 V1 Mb V1 M2 V2 M5 V2 M3",
  "V1 M1 V1 M1 V1 M1 V1 M4 V1 Mb V1 M6 V4 M5 V6 M1c V3 M1 V5 M1 V2 X4 V4c M2 V1 M2 V6w M2 V73 Xm",
  "Vb Xl M14 Xk M27 V10h M1 V2v M3 V2t M1 V47 X2 V3u M1c V1c M1 V1 M3 V2 M1 V1 M1 V1 M1 V1 M4 V1",
  "M1 V2 M1 V6 M5 V1 M1 V1 M1 V1 M1 V1 M1 V1 M1 V1 M1 V1 M1 V1 M1 V1 M1 V1 M1 V1 M1 V1 M1 V1 M1 V1",
  "M1 V1 M1 V1 M1 V1 M1 V1 M1 V1 M1 V1 M1 V1 M1 V1 M1 V1 M1 V1 M1 V1 M1 V1 M1 V1 M1 V1 M1 V1 M1 V1",
  "M1 V1 M1 V1 M1 V1 M1 V1 M1 V1 M1 V1 M1 V1 M1 V1 M1 V1 M1 V1 M1 V1 M1 V1 M1 V1 M1 V1 M1 V1 M1 V1",
  "M1 V1 M1 V1 M1 V1 M1 V8 M1 V1 M1 V4 M1 V1 X5 V19 X1 V1 X5 V1 X2 V1k X7 M1 V1 Xe Vo X9 V7 X1 V7",
  "X1 V7 X1 V7 X1 V7 X1 V7 X1 V7 X1 V7 X1 V3i Xy Vq X1 V4 M1 V2b M1 Xc M5y X16 M1 V1 M1 V1f M1 V1",
  "M3 V5 X1 V2e X2 V2 M2 V2 M1 V2n M1 X5 V17 X1 M1f I1 M16 X1 V2 Me V1y Xa Vg Mv X1 M14 V8 M1b V1",
  "M8y X1 M4 X1 Mg X1 M13 Vm8d X3 V1j X9 V9o Xk M1 V1 M1 V1 M1 V1 M1 V1 M1 V1 M1 V1 M1 V1 M1 V1 M1",
  "V1 M1 V1 M1 V1 M1 V1 M1 V1 M1 V1 M1 V1 M1 V1 M1 V1 M1 V1 M1 V1 M1 V1 M1 V1 M1 V1 M1 Vj M1 V1 M1",
  "V1 M1 V1 M1 V1 M1 V1 M1 V1 M1 V1 M1 V1 M1 V1 M1 V1 M1 V1 M1 V1 M1 V1 M1 V1 M2 V2i X8 Vy M1 V1",
  "M1 V1 M1 V1 M1 V1 M1 V1 M1 V1 M1 V3 M1 V1 M1 V1 M1 V1 M1 V1 M1 V1 M1 V1 M1 V1 M1 V1 M1 V1 M1 V1",
  "M1 V1 M1 V1 M1 V1 M1 V1 M1 V1 M1 V1 M1 V1 M1 V1 M1 V1 M1 V1 M1 V1 M1 V1 M1 V1 M1 V1 M1 V1 M1 V1",
  "M1 V1 M1 V1 M1 V1 M1 V1 M1 V1 M1 V8 M1 V1 M1 V1 M2 V1 M1 V1 M1 V1 M1 V1 M1 V4 M1 V1 M1 V2 M1 V1",
  "M1 V3 M1 V1 M1 V1 M1 V1 M1 V1 M1 V1 M1 V1 M1 V1 M1 V1 M1 V1 M1 V1 M5 V1 M5 V1 M1 V1 M1 V1 M1 V1",
  "M1 V1 M1 V1 M1 V1 M1 V1 M4 V1 M1 V1 M2 V1 M1 V1 M1 V1 M1 V1 M1 V1 M1 V1 M1 V1 M1 V1 M1 Xk M5 V2",
  "M2 V1f X3 Va X6 V1k X8 V1y X8 Vc X6 V38 Xb Vu X3 V26 X1 Vb X4 Vx X1 V1j X9 Ve X2 Va X2 V2v Xo",
  "Vs Xa V6 X2 V6 X2 V6 X9 V7 X1 V7 X1 V18 M4 V9 M1 V2 X4 M28 V1a X2 Va X6 V8mc Xc Vn X4 V1d X6is",
  "M7i V2 M1 V1 M1 V2 Ma V1 M1 V1 M1 V2 M2 V3 M1w X2 M2y X12 M7 Xc M5 X5 M1 V1 Mo X1 M5 X1 M1 X1",
  "M2 X1 M2 X1 M30 Vx Ma3 Vi M1s V2 M1i V8 Xw Md V3 Ig M2 X1 M6 X7 Vg X1 Mk V2 Mb X2 Mj X1 M4 X4",
  "M3 V1 M1 X1 M3r X2 I1 X1 M4f I1 Mu X3 M6 X2 M6 X2 M6 X2 M3 X3 M7 X1 M7 Xh Vc X1 Vq X1 Vj X1 V2",
  "X1 Vf X2 Ve Xy V3f X5 V3 X4 V19 X3 V2g X1 Vd X3 V1 X1b V1a X3m Vt X3 V1d Xf Vs X4 V10 X9 Vu X5",
  "V17 X5 Vu X1 V11 X4 Ve X16 M14 V3a X2 Va X6 M10 X4 V10 X4 V14 X8 V1g Xb V1 Mb X1 Mf X1 M7 X1 M2",
  "X1 Vb X1 Vf X1 V7 X1 V2 X3 V1g Xc V8n X9 Vm Xa V8 Xo V1 M5 X1 M16 X1 M9 X1x V6 X2 V1 X1 V18 X1",
  "V2 X3 V1 X2 Vn X1 V20 X8 V9 X1c Vj X1 V2 X5 Vx X3 Vr X5 Vr X12 V1k X4 Vk X2 V1e X1 V2 X5 V8 X1",
  "V3 X1 Vt X2 V3 X4 Va X7 V9 X7 V1s Xw V13 X4 Vc X9 V1i X3 Vt X2 Vr X5 Vq X7 V4 Xc V7 X28 V21 X1j",
  "M1f Xd V1f X7 V1a X8 Va X6 Vg Mm X3 Vt X8 V2 X5s Vv X1 V16 X1 V3 X2 V2 Xg V6 X8 V9 Xx V1a X8",
  "V16 Xm Vq X12 Vs Xk Vn X9 V26 X4 V10 X9 V1q X1 V5 Xd Vp X7 Va X6 V1h X1 Vi X8 V13 X9 V2o X1 Vk",
  "Xb Vi X1 V1b X1q V7 X1 V1 X1 V4 X1 Vf X1 Vb X6 V1n X5 Va X6 V4 X1 V8 X2 V2 X2 Vm X1 V7 X1 V2 X1",
  "V5 X1 Va X2 V2 X2 V3 X2 V1 X6 V1 X5 V7 X2 V7 X3 V5 Xb Va X1 V1 X2 V1 X1 V12 X1 Va X1 V1 X2 V1",
  "X1 V4 X1 Va X1 V2 X8 V2 Xt V2k X1 V5 Xu V20 X8 Va X4m V1i X2 V12 Xy V1x Xb Va X6 Vd Xj V1m X6",
  "Va X6 Vk Xs Vr X2 Vf X4 Vn X55 V1o X2s Mw V1f Xc V8 X2 V1 X2 V8 X1 V2 X1 Vu X1 V2 X2 Vc X9 Va",
  "X1y V8 X2 V1a X2 Vb Xr V20 X8 V2b Xd V21 X7 Va X2e V8 X2g Vy Xe Va X6 V9 X1 V19 X1 Ve Xa Vt X3",
  "Vw X2 Vm X1 Ve X21 V7 X1 V2 X1 V18 X3 V1 X1 V2 X1 V9 X8 Va X6 V6 X1 V2 X1 V11 X1 V2 X1 V6 X7 Va",
  "X6 V18 X4 Va X6u Vp X7 Vh X1 V15 X3 Vt X2d V1 Xf V1e Xd Vpn X2u V33 X1 V5 Xb V5g X218 V2r Xd",
  "Vts Xg Vm Xa V32z X5 Vg7 X5a1 V1m X1c6 Vft X7 Vv X1 Va X4 V29 X1 Va X6 Vu X2 V6 Xa V1y Xa Va X1",
  "V7 X1 Vl X5 Vj Xc0 V1m X5i Mw V1n X5 Mp X2 Vp X18 V23 X4 V1l X7 Vh X1s V5 Xb V7 X9 V5p2 X15 Vw",
  "X2p V37 X6pp V4 X1 V7 X1 V2 X1 V83 Xf V1 Xt V3 X2 V1 Xe V4 X8 Vb0 X1s4 V2z X5 Vd X3 V9 X7 Va X2",
  "V4 I4 X318 V5y M10 V3 X3 Vc4 X6 Vn Xf Vh Xf V1a X2 Vn X9 V38 X1o V6u Xa V13 X2 V1h M7 Ve I8 V1s",
  "M6 V16 Xl V1y X3e Vk Xc Vk Xc V2f X9 Vp X3r M2d X1 M1z X1 M2 X2 M1 X2 M2 X2 M4 X1 Mc X1 M1 X1",
  "M7 X1 M1t X1 M4 X2 M8 X1 M7 X1 Ms X1 M4 X1 M5 X1 M1 X3 M7 X1 M9g X2 M84 X2 M1e Vi4 Xf V5 X1 Vf",
  "Xuo Vv X6 V6 X5x V7 X1 Vh X2 V7 X1 V2 X1 V5 X5 M1q Xx V1 X34 V19 X3 Ve X2 Va X4 V2 X8w Vv Xh",
  "V1m X5 V1 Xcw V16 X5y V17 X4 V1 X5c Vv X1 Vm X8 V2 X68 V7 X1 V4 X1 V2 X1 Vf X1 V5h X2 Vg X15 My",
  "V16 X4 Va X4 V2 Xlt V1w X24 V1p X5e M4 X1 Mr X1 M2 X1 M1 X2 M1 X1 Ma X1 M4 X1 M1 X1 M1 X6 M1 X4",
  "M1 X1 M1 X1 M1 X1 M3 X1 M2 X1 M1 X2 M1 X1 M1 X1 M1 X1 M1 X1 M1 X1 M2 X1 M1 X2 M4 X1 M7 X1 M4 X1",
  "M4 X1 M1 X1 Ma X1 Mh X5 M3 X1 M5 X1 Mh X1g V2 X7i V18 X4 V2s Xc Vf X2 Vf X1 Vf X1 V11 Xb Ma V5",
  "Mv V1 Mw Vq M3 Vz M1 Vt X1k Vq M3 Xd M18 X4 M9 X7 M2 Xe V6 X4a Vrd X3 Vh X3 Vd X3 V62 X6 Vc X4",
  "V1 Xf Vc X4 V1k X8 Va X6 V14 X8 Vu X2 Vc X4 V2 Xe V9 X13 V9k X8 Ve X2 Vd X3 Vb X3 V1l X1 V1 X4",
  "Vg X2 Vc X4 Va X7 V43 X1 V2k Ma V1 Xsl Vwyo Xw V3dq X2 V4ge X2 V5rl Xf Vha X1wi Mf2 X15u V3t7",
  "X5 V6ju Xf62u I6o X47bk"]

/-- Rows of code points that become another by one distance: the first of them, how many there are,
the step from one to the next, and the distance, which may be negative. -/
def domainShiftTable : List String := [
  "1t,q,1,w 4g,1,1,-3k 4q,1,1,-21 4y,2,1,-3k 51,1,1,lj 55,1,1,-3s 56,1,1,-23 5c,n,1,w 60,7,1,w",
  "74,o,2,1 8k,2,2,1 8p,3,2,1 8x,4,2,1 96,n,2,1 ag,1,1,-3d ah,3,2,1 an,1,1,-7g ap,1,1,5u aq,2,2,1",
  "au,1,1,5q av,1,1,1 ax,2,1,5p az,1,1,1 b2,1,1,27 b3,1,1,5m b4,1,1,5n b5,1,1,1 b7,1,1,5p",
  "b8,1,1,5r ba,1,1,5v bb,1,1,5t bc,1,1,1 bg,1,1,5v bh,1,1,5x bj,1,1,5y bk,3,2,1 bq,1,1,62",
  "br,1,1,1 bt,1,1,62 bw,1,1,1 by,1,1,62 bz,1,1,1 c1,2,1,61 c3,2,2,1 c7,1,1,63 c8,1,1,1 cc,1,1,1",
  "ct,8,2,1 da,9,2,1 dw,1,1,1 dy,1,1,-2p dz,1,1,-1k e0,k,2,1 f4,1,1,-3m f6,9,2,1 fu,1,1,8bv",
  "fv,1,1,1 fx,1,1,-4j fy,1,1,8bs g1,1,1,1 g3,1,1,-5f g4,1,1,1x g5,1,1,1z g6,5,2,1 j4,1,1,-g8",
  "j5,1,1,-23 j6,1,1,-g8 j7,1,1,-g1 j8,1,1,-1n j9,1,1,-1m ja,1,1,-1h jb,1,1,-g0 jc,1,1,-fz",
  "kg,1,1,-3h kh,1,1,-hh ki,1,1,-hb kj,1,1,-h7 kk,1,1,-27 n4,2,1,-1s n7,1,1,-1c n9,1,1,38 og,2,2,1",
  "ok,1,1,-57 om,1,1,1 ou,1,1,-n7 ov,1,1,38 p2,1,1,12 p3,1,1,-k0 p4,3,1,11 p8,1,1,1s pa,2,1,1r",
  "pd,h,1,w pv,9,1,w r3,1,1,8 r4,1,1,-u r5,1,1,-p r6,1,1,-d r7,1,1,-6 r8,1,1,-9 r9,1,1,-f",
  "ra,1,1,-m rc,c,2,1 s0,1,1,-1i s1,1,1,-1c s2,1,1,-1b s4,1,1,-1o s5,1,1,-1s s7,1,1,1 s9,1,1,-1i",
  "sa,1,1,1 sd,3,1,-3m sg,g,1,28 sw,w,1,w v4,h,2,1 wa,r,2,1 xs,1,1,f xt,7,2,1 y8,1c,2,1",
  "10x,12,1,1c 2z0,1,1,-1 3a8,12,1,5ls 3bb,1,1,5ls 3bh,1,1,5ls 3cs,1,1,-w 3y0,6,1,-8 5mo,1,1,-4su",
  "5mp,1,1,-4st 5mq,1,1,-4sk 5mr,2,1,-4si 5mt,1,1,-4sj 5mu,1,1,-4sc 5mv,1,1,-4ro 5mw,1,1,r7n",
  "5mx,1,1,1 5n4,17,1,-2bk 5od,3,1,-2bk 5rg,1,1,-5or 5rh,1,1,-5l3 5ri,2,2,-5os 5rl,1,1,-5os",
  "5rm,1,1,-5ed 5rn,8,1,-5os 5rw,1,1,-5ot 5rx,1,1,-5cq 5ry,1,1,-5ou 5rz,1,1,-5ot 5s0,2,1,-5os",
  "5s2,1,1,-5or 5s3,1,1,-5pe 5s4,2,1,-5bo 5s6,1,1,-1w 5s7,1,1,-5ph 5s8,2,1,-5pg 5sa,1,1,-5bl",
  "5sb,2,1,-5bk 5sd,1,1,-5pi 5sf,1,1,-5pg 5sg,1,1,-5pf 5sh,1,1,-5ja 5si,1,1,-5pf 5sj,1,1,-5bz",
  "5sk,2,1,-1q 5sm,1,1,-5pi 5sn,2,1,-5pf 5sp,1,1,-1o 5sq,1,1,-5bf 5sr,1,1,-5ph 5ss,1,1,-1j",
  "5st,3,1,-52j 5sw,2,1,-522 5sy,1,1,-5q1 5sz,1,1,-5pt 5t0,2,1,-5pr 5t2,2,1,-52s 5t4,1,1,-52f",
  "5t5,2,1,-52b 5tk,1,1,-4zf 5uj,1,1,-5e1 5uk,1,1,-5rt 5ul,1,1,-5e0 5um,1,1,-5ny 5un,1,1,-5dv",
  "5uo,1,1,-5ru 5up,1,1,-5du 5uq,1,1,-5dt 5ur,1,1,-5dq 5us,3,1,-5do 5uv,1,1,-18 5uw,1,1,-5cb",
  "5ux,1,1,-5do 5uy,1,1,-11 5uz,1,1,-5cc 5v0,1,1,-5dn 5v1,1,1,-5dp 5v2,4,1,-5do 5v6,1,1,-5dm",
  "5v7,2,1,-5dd 5v9,1,1,-5je 5va,2,1,-5d9 5vc,1,1,-4c 5vd,2,1,-5da 5vf,1,1,-5s1 5vg,3,1,-5d8",
  "5vj,1,1,-553 5xc,23,2,1 61n,1,1,-1m 61q,1,1,-5vj 61s,1c,2,1 64o,8,1,-8 654,6,1,-8 65k,8,1,-8",
  "660,8,1,-8 66g,6,1,-8 66x,4,2,-8 67c,8,1,-8 67l,1,1,-5hh 67n,1,1,-5hi 67p,1,1,-5hj 67r,1,1,-5hk",
  "67t,1,1,-5gt 67v,1,1,-5gu 67x,1,1,-5gv 69k,2,1,-8 69m,1,1,-22 69n,1,1,-5jj 69q,1,1,-5j9",
  "6a0,1,1,-2e 6a1,1,1,-5jw 6a2,1,1,-2e 6a3,1,1,-5jx 6ab,1,1,-5kz 6ag,2,1,-8 6ai,1,1,-2s",
  "6aj,1,1,-5kc 6ar,1,1,-5kj 6aw,2,1,-8 6ay,1,1,-34 6az,1,1,-5jy 6b0,1,1,-7 6b3,1,1,-68f",
  "6bc,1,1,-3k 6bd,1,1,-5kd 6be,1,1,-3i 6bf,1,1,-5kd 6bk,1,1,-6ao 6bl,1,1,-6ap 6bm,1,1,-6aq",
  "6bn,1,1,-6ar 6bo,1,1,-6as 6bp,1,1,-6at 6bq,1,1,-6au 6br,1,1,-6av 6bs,1,1,-6aw 6bt,1,1,-6ax",
  "6bu,1,1,-6ay 6c1,1,1,-1 6cv,1,1,-6bz 6e7,1,1,-6db 6eo,1,1,-6dc 6ep,1,1,-6bs 6es,6,1,-6dc",
  "6ey,1,1,-6dr 6ez,1,1,bb 6f0,1,1,-6db 6f1,2,1,-6dx 6f3,1,1,-6c1 6f4,a,1,-6ds 6fe,1,1,-6e7",
  "6ff,1,1,av 6fg,1,1,-6dr 6fh,2,1,-6ed 6fk,1,1,-6cv 6fl,1,1,-6cs 6fm,1,1,-6cj 6fn,1,1,-6cb",
  "6fo,1,1,-5yz 6fp,1,1,-6ct 6fq,4,1,-6cr 6fu,1,1,-6cq 6fv,2,1,-6co 6iq,1,1,-6fz 6iv,1,1,-624",
  "6iy,2,1,-6g3 6j0,1,1,-6g4 6j1,1,1,-6g5 6j2,1,1,-6g6 6j3,1,1,-6aw 6j4,1,1,-6g7 6j5,1,1,-6g8",
  "6j6,1,1,-6g6 6j7,2,2,-6g7 6jd,3,1,-6g9 6jg,1,1,-6ga 6jh,1,1,-6gb 6jo,1,1,-6ga 6jq,1,1,-5st",
  "6js,1,1,-6ge 6ju,1,1,-6gv 6jv,1,1,-6di 6jw,2,1,-6h6 6jz,1,1,-6h6 6k0,2,1,-6h7 6k2,1,1,s",
  "6k3,1,1,-6h2 6k4,1,1,-6h1 6k5,4,1,-5et 6k9,1,1,-6hc 6kc,1,1,-5to 6kd,1,1,-5u2 6ke,1,1,-5u3",
  "6kf,1,1,-5tr 6kg,1,1,5t 6kl,1,1,-6ht 6km,2,1,-6hu 6ko,2,1,-6hr 6lc,1,1,-6if 6lg,1,1,-6i6",
  "6ll,1,1,-6i9 6lo,1,1,-6io 6lp,2,1,-6iy 6lr,1,1,-6iq 6ls,1,1,-6iv 6lw,1,1,-6im 6m1,1,1,-6ip",
  "6m4,1,1,-6j4 6m5,2,1,-6je 6m7,1,1,-6j6 6mb,1,1,1 6y1,2,1,2jj 76o,9,1,-75b 792,q,1,-76d",
  "79s,q,1,-773 7ai,1,1,-796 8ow,1c,1,1c 8rk,1,1,1 8rm,1,1,-8af 8rn,1,1,-2xy 8ro,1,1,-89z",
  "8rr,3,2,1 8rx,1,1,-8bg 8ry,1,1,-8al 8rz,1,1,-8bj 8s0,1,1,-8bi 8s2,1,1,1 8s5,1,1,1 8sc,1,1,-8pe",
  "8sd,1,1,-8p3 8se,2,1,-8cf 8sg,1e,2,1 8vf,2,2,1 8vm,1,1,1 8z3,1,1,-e 97j,1,1,c32 99v,1,1,m98",
  "9a8,1,1,64g 9a9,1,1,65j 9aa,1,1,65w 9ab,1,1,664 9ac,1,1,66t 9ad,1,1,680 9ae,1,1,686 9af,1,1,68p",
  "9ag,1,1,69e 9ah,1,1,6ra 9ai,1,1,6sb 9aj,1,1,6sg 9ak,1,1,6t2 9al,1,1,6tl 9am,1,1,6u5 9an,1,1,6vl",
  "9ao,1,1,6w5 9ap,1,1,6wf 9aq,1,1,70p 9ar,1,1,73a 9as,1,1,741 9at,1,1,745 9au,1,1,74y 9av,1,1,756",
  "9aw,1,1,75w 9ax,1,1,768 9ay,1,1,76w 9az,1,1,78b 9b0,1,1,78s 9b1,1,1,79i 9b2,1,1,7uh 9b3,1,1,7wg",
  "9b4,1,1,897 9b5,1,1,89t 9b6,1,1,8a0 9b7,1,1,8aa 9b8,1,1,8ar 9b9,1,1,8cu 9ba,1,1,8q2 9bb,1,1,8rd",
  "9bc,1,1,8uo 9bd,1,1,8va 9be,1,1,8vs 9bf,1,1,8wd 9bg,1,1,8xu 9bh,1,1,8xw 9bi,1,1,97x 9bj,1,1,986",
  "9bk,1,1,98h 9bl,1,1,98t 9bm,1,1,9c0 9bn,1,1,9c7 9bo,1,1,9cb 9bp,1,1,9fj 9bq,1,1,9fs 9br,1,1,9g4",
  "9bs,1,1,9gb 9bt,1,1,9hz 9bu,1,1,9if 9bv,1,1,9iw 9bw,1,1,9l3 9bx,1,1,a17 9by,1,1,a2g 9bz,1,1,a30",
  "9c0,1,1,anj 9c1,1,1,ann 9c2,1,1,apx 9c3,1,1,aqc 9c4,1,1,aqo 9c5,1,1,ar8 9c6,1,1,asa 9c7,1,1,ase",
  "9c8,1,1,azs 9c9,1,1,b0f 9ca,1,1,b1a 9cb,1,1,bth 9cc,1,1,bva 9cd,1,1,bvw 9ce,1,1,bxh 9cf,1,1,by4",
  "9cg,1,1,byc 9ch,1,1,byi 9ci,1,1,bzx 9cj,1,1,c01 9ck,1,1,c0w 9cl,1,1,cuu 9cm,1,1,d78 9cn,1,1,d7j",
  "9co,1,1,d7n 9cp,1,1,d7q 9cq,1,1,d7x 9cr,1,1,d8e 9cs,1,1,d8f 9ct,1,1,dan 9cu,1,1,dgm 9cv,1,1,dgq",
  "9cw,1,1,dq4 9cx,1,1,dqd 9cy,1,1,drq 9cz,1,1,drw 9d0,1,1,ds4 9d1,1,1,dsb 9d2,1,1,dut 9d3,1,1,duz",
  "9d4,1,1,e1a 9d5,1,1,e1g 9d6,1,1,e2s 9d7,1,1,e38 9d8,1,1,e4i 9d9,1,1,eb2 9da,1,1,eb8 9db,1,1,ebo",
  "9dc,1,1,ekq 9dd,1,1,eo7 9de,1,1,eoc 9df,1,1,etd 9dg,1,1,evr 9dh,1,1,ex0 9di,1,1,f7h 9dj,1,1,fb5",
  "9dk,1,1,fr2 9dl,1,1,frs 9dm,1,1,ftc 9dn,1,1,fuq 9do,1,1,fwl 9dp,1,1,fwv 9dq,1,1,fx0 9dr,1,1,fxw",
  "9ds,1,1,fzz 9dt,1,1,g08 9du,1,1,g9t 9dv,1,1,g9z 9dw,1,1,ga7 9dx,1,1,gaf 9dy,1,1,gau 9dz,1,1,gb8",
  "9e0,1,1,gbb 9e1,1,1,gdh 9e2,1,1,gdk 9e3,1,1,gdp 9e4,1,1,h4x 9e5,1,1,h5q 9e6,1,1,hiq 9e7,1,1,hj1",
  "9e8,1,1,hjn 9e9,1,1,hrh 9ea,1,1,hrt 9eb,1,1,htr 9ec,1,1,hv0 9ed,1,1,iaq 9ee,1,1,ib4 9ef,1,1,ibi",
  "9eg,1,1,icg 9eh,1,1,idg 9ei,1,1,iiy 9ej,1,1,ij9 9ek,1,1,il3 9el,1,1,iry 9em,1,1,iss 9en,1,1,iyk",
  "9eo,1,1,iz4 9ep,1,1,iz8 9eq,1,1,j5b 9er,1,1,jae 9es,1,1,jdu 9et,1,1,jdz 9eu,1,1,je3 9ev,1,1,k40",
  "9ew,1,1,k48 9ex,1,1,k8j 9ey,1,1,kcs 9ez,1,1,kcu 9f0,1,1,ke4 9f1,1,1,kh0 9f2,1,1,khc 9f3,1,1,khf",
  "9f4,1,1,khl 9f5,1,1,kka 9f6,1,1,kl7 9f7,1,1,klc 9f8,1,1,klp 9f9,1,1,kqb 9fa,1,1,krp 9fb,1,1,krs",
  "9fc,1,1,kwu 9fd,1,1,kww 9fe,1,1,kxe 9ff,1,1,l4d 9fg,1,1,l5o 9fh,1,1,l5u 9fi,1,1,l7r 9fj,1,1,l80",
  "9fk,1,1,l82 9fl,1,1,l8b 9fm,1,1,l94 9fn,1,1,lk2 9fo,1,1,lv5 9fp,1,1,lve 9fq,1,1,lwf 9fr,1,1,lx0",
  "9fs,1,1,lx7 9ft,1,1,lxg 9fu,1,1,lxj 9fv,1,1,lym 9fw,1,1,lyp 9fx,1,1,lz5 9fy,1,1,lz9 9fz,1,1,lzl",
  "9g0,1,1,m0b 9g1,1,1,m0p 9g2,1,1,m0w 9g3,1,1,m2i 9g4,1,1,m2w 9g5,1,1,m2z 9hc,1,1,-9gg",
  "9he,1,1,-9g4 9iu,1,1,-10 9iw,1,1,6x5 9ix,2,1,6x7 9pt,2,1,-6cx 9pv,1,1,-689 9pw,1,1,-6cy",
  "9px,2,1,-689 9pz,3,1,-6d0 9q2,6,1,-68a 9q8,1,1,-6cm 9q9,3,1,-6d7 9qc,1,1,-6cj 9qd,a,1,-6d8",
  "9qn,l,1,-6b2 9r9,2,1,-6dt 9rb,2,1,-68w 9rd,1,1,-68t 9re,1,1,-68s 9rf,1,1,-68o 9rg,1,1,-68l",
  "9rh,1,1,-68k 9ri,1,1,-6du 9rj,1,1,-68i 9rk,1,1,-68h 9rl,2,1,-6dw 9rn,1,1,-6dv 9ro,2,1,-6du",
  "9rq,1,1,-6dr 9rr,1,1,-6dq 9rs,5,1,-6dp 9rx,1,1,-6dn 9ry,1,1,-6dk 9rz,1,1,-6db 9s0,1,1,-6d5",
  "9s1,1,1,-6d1 9s2,2,1,-68h 9s4,3,1,-6ct 9s7,2,1,-6bn 9s9,1,1,-6bl 9sa,2,1,-6bd 9sc,1,1,-6bc",
  "9sd,1,1,-6b3 9se,1,1,-6b1 9si,1,1,5m6 9sj,1,1,5q1 9sk,1,1,5md 9sl,1,1,7d2 9sm,1,1,5mc",
  "9sn,1,1,5na 9so,1,1,5mb 9sp,1,1,dcp 9sq,1,1,5of 9sr,1,1,5mm 9ss,1,1,5lx 9st,1,1,7t8 9su,1,1,7f6",
  "9sv,1,1,5qz 9xg,1,1,6x7 9xh,1,1,8qf 9xi,1,1,a4h 9xj,1,1,eh4 9y8,1,1,-6lc 9y9,2,1,-6lb",
  "9yb,3,1,-6la 9ye,1,1,-6l9 9yf,2,1,-6l8 9yh,5,1,-6l7 9ym,1,1,o0i 9yn,1,1,ox5 9yo,1,1,pdg",
  "9yp,1,1,qa3 9yq,1,1,qqe 9yr,1,1,r6p 9ys,1,1,s3c 9yt,1,1,szz 9yu,1,1,tga 9yv,1,1,ucx 9yw,1,1,ut8",
  "9yx,1,1,v9j 9yy,1,1,vpu 9yz,1,1,w65 9z2,1,1,t9u 9z4,1,1,5fk 9z5,1,1,5jf 9z6,1,1,5fr 9z7,1,1,76g",
  "9z8,1,1,5jk 9z9,1,1,63s 9za,1,1,5fh 9zb,1,1,63o 9zc,1,1,5hx 9zd,1,1,6go 9ze,1,1,ada 9zf,1,1,c80",
  "9zg,1,1,be0 9zh,1,1,ae3 9zi,1,1,itf 9zj,1,1,780 9zk,1,1,a51 9zl,1,1,al5 9zm,1,1,ad3 9zn,1,1,dyj",
  "9zo,1,1,6m1 9zp,1,1,cmc 9zq,1,1,hsb 9zr,1,1,dza 9zs,1,1,6cc 9zt,1,1,e2n 9zu,1,1,d5p 9zv,1,1,7o8",
  "9zw,1,1,ij1 9zx,1,1,619 9zy,1,1,6he 9zz,1,1,bih a00,1,1,k11 a01,1,1,5m8 a02,1,1,647 a03,1,1,b7k",
  "a04,1,1,5eu a05,1,1,5fs a06,1,1,5et a07,1,1,8jj a08,1,1,6kr a09,1,1,6fm a0a,1,1,831 a0b,1,1,81n",
  "a0c,1,1,dh3 a0d,1,1,5lg a0e,1,1,hsp a0f,1,1,6g5 a0g,1,1,7l8 a1c,1,1,-fi a1d,1,1,-fh a1e,1,1,-fg",
  "a1f,1,1,-ff a1g,2,1,-fe a1i,1,1,-fd a1j,1,1,-fc a1k,1,1,-fb a1l,1,1,-fa a1m,1,1,-f9 a1n,1,1,-f8",
  "a1o,1,1,-f7 a1p,1,1,-f6 a1q,1,1,-f5 a1r,1,1,-f4 a1s,1,1,-f3 a1t,1,1,-f1 a1u,1,1,-f0 a1v,1,1,-ez",
  "a1w,6,1,-ey a22,1,1,-ew a23,1,1,-eu a24,1,1,-es a25,1,1,-eq a26,5,1,-eo a2b,1,1,-en a2c,1,1,-em",
  "a2d,6,1,-el a2j,4,1,-ek wu8,n,2,1 ww0,e,2,1 wws,1,1,-w2a wwt,1,1,-w29 x0i,7,2,1 x0y,v,2,1",
  "x2o,1,1,-1 x2x,2,2,1 x31,1,1,-r9g x32,5,2,1 x3f,1,1,1 x3h,1,1,-wmg x3k,2,2,1 x3q,a,2,1",
  "x4a,1,1,-wn8 x4b,1,1,-wnj x4c,1,1,-wnf x4d,1,1,-wn5 x4e,1,1,-wn8 x4g,1,1,-wlu x4h,1,1,-wmi",
  "x4i,1,1,-wlx x4j,1,1,ps x4k,8,2,1 x50,1,1,-1c x51,1,1,-wn7 x52,1,1,-raw x53,2,2,1 x57,1,1,-wo7",
  "x58,8,2,1 x5o,1,1,-wu9 x69,1,1,-x32 x6a,1,1,-x3j x6b,1,1,-x3h x6c,1,1,-x37 x6d,1,1,1",
  "x6g,1,1,-wy9 x6h,1,1,-wx2 xuk,1,1,-tx xul,1,1,-12 xum,1,1,-xdf xun,1,1,-d xux,1,1,-xcs",
  "xv4,28,1,-tzk 1d6o,1,1,-lh4 1d6p,1,1,-sul 1d6q,1,1,-kzc 1d6r,1,1,-ldn 1d6s,1,1,-rar",
  "1d6t,1,1,-xqr 1d6u,1,1,-wm9 1d6v,1,1,-hnv 1d6w,1,1,-hnw 1d6x,1,1,-vjs 1d6y,1,1,-ke1",
  "1d6z,1,1,-was 1d70,1,1,-vk4 1d71,1,1,-tuf 1d72,1,1,-pt1 1d73,1,1,-o0a 1d74,1,1,-moh",
  "1d75,1,1,-mdz 1d76,1,1,-m56 1d77,1,1,-kn8 1d78,1,1,-s9e 1d79,1,1,-rne 1d7a,1,1,-qwt",
  "1d7b,1,1,-qbd 1d7c,1,1,-n2z 1d7d,1,1,-khb 1d7e,1,1,-isp 1d7f,1,1,-xp5 1d7g,1,1,-wpz",
  "1d7h,1,1,-s2h 1d7i,1,1,-qo3 1d7j,1,1,-mpe 1d7k,1,1,-hz6 1d7l,1,1,-us1 1d7m,1,1,-r3r",
  "1d7n,1,1,-ms6 1d7o,1,1,-m2o 1d7p,1,1,-tp8 1d7q,1,1,-nke 1d7r,1,1,-mbs 1d7s,1,1,-uhq",
  "1d7t,1,1,-suq 1d7u,1,1,-rls 1d7v,1,1,-qi7 1d7w,1,1,-km6 1d7x,1,1,-xif 1d7y,1,1,-x2v",
  "1d7z,1,1,-wup 1d80,1,1,-tbg 1d81,1,1,-s4e 1d82,1,1,-qoy 1d83,1,1,-pqk 1d84,1,1,-nxv",
  "1d85,1,1,-mr3 1d86,1,1,-moq 1d87,1,1,-l6w 1d88,1,1,-jd2 1d89,1,1,-iiy 1d8a,1,1,-i0w",
  "1d8b,1,1,-pf3 1d8c,1,1,-p8d 1d8d,1,1,-of1 1d8e,1,1,-n79 1d8f,1,1,-k6z 1d8g,1,1,-hxd",
  "1d8h,1,1,-lt7 1d8i,1,1,-voj 1d8j,1,1,-ugv 1d8k,1,1,-oo4 1d8l,1,1,-nuv 1d8m,1,1,-qn8",
  "1d8n,1,1,-pdp 1d8o,1,1,-lfq 1d8p,1,1,-jf6 1d8q,1,1,-voy 1d8r,1,1,-uzt 1d8s,1,1,-sah",
  "1d8t,1,1,-rjn 1d8u,1,1,-rb3 1d8v,1,1,-oio 1d8w,1,1,-obd 1d8x,1,1,-jk6 1d8y,1,1,-ww0",
  "1d8z,1,1,-nuw 1d90,1,1,-x2w 1d91,1,1,-x3d 1d92,1,1,-p4q 1d93,1,1,-oex 1d94,1,1,-n6v",
  "1d95,1,1,-jj8 1d96,1,1,-lp6 1d97,1,1,-tqk 1d98,1,1,-sbe 1d99,1,1,-lsv 1d9a,1,1,-xt1",
  "1d9b,1,1,-v3s 1d9c,1,1,-ua6 1d9d,1,1,-qfu 1d9e,1,1,-q2a 1d9f,1,1,-wuk 1d9g,1,1,-pd5",
  "1d9h,1,1,-xie 1d9i,1,1,-ud9 1d9j,1,1,-xui 1d9k,1,1,-rrw 1d9l,1,1,-t81 1d9m,1,1,-ojs",
  "1d9n,1,1,-wq0 1d9o,1,1,-vta 1d9p,1,1,-prg 1d9q,1,1,-n51 1d9r,1,1,-lvp 1d9s,1,1,-rzq",
  "1d9t,1,1,-kw1 1d9u,1,1,-ru2 1d9v,1,1,-tpx 1d9w,1,1,-nf3 1d9x,1,1,-tlh 1d9y,1,1,-q35",
  "1d9z,1,1,-xqh 1da0,1,1,-x73 1da1,1,1,-x4g 1da2,1,1,-smx 1da3,1,1,-olw 1da4,1,1,-nil",
  "1da5,1,1,-luz 1da6,1,1,-khb 1da7,1,1,-wwa 1da8,1,1,-wn2 1da9,1,1,-vm6 1daa,1,1,-uja",
  "1dab,1,1,-t6m 1dac,1,1,-r5y 1dad,1,1,-pcr 1dae,1,1,-jq1 1daf,1,1,-isd 1dag,1,1,-hyp",
  "1dah,1,1,-hx7 1dai,1,1,-wz3 1daj,1,1,-szp 1dak,1,1,-s2d 1dal,1,1,-kyz 1dam,1,1,-umy",
  "1dan,1,1,-u0v 1dao,1,1,-txs 1dap,1,1,-tfb 1daq,1,1,-rcf 1dar,1,1,-qx6 1das,1,1,-qa3",
  "1dat,1,1,-p8r 1dau,1,1,-of6 1dav,1,1,-nxk 1daw,1,1,-l0y 1dax,1,1,-n1n 1day,1,1,-ktz",
  "1daz,1,1,-k7l 1db0,1,1,-x39 1db1,1,1,-wze 1db2,1,1,-wkh 1db3,1,1,-r13 1db4,1,1,-mam",
  "1db5,1,1,-lx3 1db6,1,1,-ul5 1db7,1,1,-ucu 1db8,1,1,-tnt 1db9,1,1,-s1j 1dba,1,1,-ors",
  "1dbb,1,1,-qia 1dbc,1,1,-xqc 1dbd,1,1,-w4w 1dbe,1,1,-v5v 1dbf,1,1,-usx 1dbg,1,1,-uc0",
  "1dbh,1,1,-qgr 1dbi,1,1,-qbp 1dbj,1,1,-o45 1dbk,1,1,-nze 1dbl,1,1,-kfx 1dbm,1,1,-ji4",
  "1dbn,1,1,-jfv 1dbo,1,1,-ja4 1dbp,1,1,-xm2 1dbq,1,1,-pag 1dbr,1,1,-kjn 1dbs,1,1,-jk0",
  "1dbt,1,1,-u6w 1dbu,1,1,-xtg 1dbv,1,1,-xcx 1dbw,1,1,-v66 1dbx,1,1,-v3y 1dby,1,1,-t9h",
  "1dbz,1,1,-se5 1dc0,1,1,-quq 1dc1,1,1,-pz3 1dc2,1,1,-n2e 1dc3,1,1,-ksn 1dc4,1,1,-htj",
  "1dc5,1,1,-t31 1dc6,1,1,-jo8 1dc7,1,1,-x1a 1dc8,1,1,-swd 1dc9,1,1,-st2 1dca,1,1,-rrd",
  "1dcb,1,1,-rhr 1dcc,1,1,-qf7 1dcd,1,1,-q5w 1dce,1,1,-pk3 1dcf,1,1,-on3 1dcg,1,1,-j8y",
  "1dch,1,1,-x9g 1dci,1,1,-tyc 1dcj,1,1,-jmj 1dck,1,1,-xih 1dcl,1,1,-uyk 1dcm,1,1,-rn0",
  "1dcn,1,1,-l2l 1dco,1,1,-uh9 1dcp,1,1,-u51 1dcq,1,1,-ssj 1dcr,1,1,-qj8 1dcs,1,1,-jme",
  "1dct,1,1,-x4k 1dcu,1,1,-wr3 1dcv,1,1,-v3u 1dcw,1,1,-t71 1dcx,1,1,-syb 1dcy,1,1,-soq",
  "1dcz,1,1,-rum 1dd0,1,1,-qfy 1dd1,1,1,-q2r 1dd2,1,1,-o6l 1dd3,1,1,-mc8 1dd4,1,1,-mbr",
  "1dd5,1,1,-kkd 1dd6,1,1,-jk8 1dd7,1,1,-wx8 1dd8,1,1,-rhu 1dd9,1,1,-wr4 1dda,1,1,-qvy",
  "1ddb,1,1,-qc7 1ddc,1,1,-mwm 1ddd,1,1,-jm6 1dde,1,1,-ihn 1ddf,1,1,-i1g 1ddg,1,1,-swt",
  "1ddh,1,1,-roq 1ddi,1,1,-npq 1ddj,1,1,-p4c 1ddk,1,1,-p20 1ddl,1,1,-orr 1ddm,1,1,-qpm",
  "1ddn,1,1,-r4y 1ddo,1,1,-lus 1ddp,1,1,-xtp 1ddq,1,1,-ngo 1ddr,1,1,-x51 1dds,1,1,-x6h",
  "1ddt,1,1,-uor 1ddu,1,1,-tv3 1ddv,1,1,-oq5 1ddw,1,1,-vb3 1ddx,1,1,-rtz 1ddy,1,1,-t3m",
  "1ddz,1,1,-l3g 1de0,1,1,-mgs 1de1,1,1,-jp8 1de2,1,1,-m7z 1de3,1,1,-uns 1de4,1,1,-xcc",
  "1de5,1,1,-wgd 1de8,1,1,-vxy 1dea,1,1,-t5q 1ded,1,1,-x87 1dee,1,1,-qng 1def,1,1,-pxp",
  "1deg,1,1,-pgc 1deh,1,1,-pff 1dei,1,1,-pf9 1dej,1,1,-pe4 1dek,1,1,-jie 1del,1,1,-orj",
  "1dem,1,1,-o69 1deo,1,1,-mxa 1deq,1,1,-lyi 1det,1,1,-kx9 1deu,1,1,-krt 1dey,1,1,-j7f",
  "1dez,1,1,-j73 1df0,1,1,-j5w 1df1,1,1,-i9l 1df2,1,1,-ksw 1df3,1,1,-jnc 1df4,1,1,-xoi",
  "1df5,1,1,-xfu 1df6,1,1,-xd1 1df7,1,1,-x2i 1df8,1,1,-x1s 1df9,1,1,-wys 1dfa,1,1,-wih",
  "1dfb,1,1,-wfl 1dfc,1,1,-wcw 1dfd,1,1,-vzt 1dfe,1,1,-vwy 1dff,1,1,-v6f 1dfg,1,1,-v66",
  "1dfh,1,1,-ucp 1dfi,1,1,-u6u 1dfj,1,1,-u5t 1dfk,1,1,-u32 1dfl,1,1,-tf6 1dfm,1,1,-tb4",
  "1dfn,1,1,-t6a 1dfo,1,1,-ssf 1dfp,1,1,-rta 1dfq,1,1,-ros 1dfr,1,1,-rhh 1dfs,1,1,-r16",
  "1dft,1,1,-qvy 1dfu,1,1,-qi0 1dfv,1,1,-pmi 1dfw,1,1,-phq 1dfx,1,1,-phg 1dfy,1,1,-phi",
  "1dfz,1,1,-phb 1dg0,1,1,-ph6 1dg1,1,1,-ph0 1dg2,2,1,-pfp 1dg4,1,1,-pas 1dg5,1,1,-p90",
  "1dg6,1,1,-p06 1dg7,1,1,-okj 1dg8,1,1,-ojz 1dg9,1,1,-oig 1dga,1,1,-oa0 1dgb,1,1,-o5y",
  "1dgc,1,1,-nsf 1dgd,1,1,-nok 1dge,1,1,-nol 1dgf,1,1,-nbc 1dgg,1,1,-mds 1dgh,1,1,-ma3",
  "1dgi,1,1,-m01 1dgj,1,1,-lyi 1dgk,1,1,-ln5 1dgl,1,1,-llp 1dgm,1,1,-l2o 1dgn,1,1,-kz3",
  "1dgo,1,1,-jnp 1dgp,1,1,-jfu 1dgq,1,1,-je7 1dgr,1,1,-ueu 1dgs,1,1,1sw2 1dgt,1,1,-nrp",
  "1dgw,1,1,-y16 1dgx,1,1,-xbw 1dgy,1,1,-xe2 1dgz,1,1,-xrn 1dh0,1,1,-xf3 1dh1,1,1,-xdh",
  "1dh2,1,1,-x4f 1dh3,1,1,-x31 1dh4,1,1,-wkb 1dh5,1,1,-wmc 1dh6,1,1,-wkh 1dh7,1,1,-wih",
  "1dh8,1,1,-w0y 1dh9,1,1,-vyi 1dha,1,1,-vui 1dhb,1,1,-vu3 1dhc,1,1,-vmm 1dhd,1,1,-vh5",
  "1dhe,1,1,-ur4 1dhf,1,1,-uqy 1dhg,1,1,-umz 1dhh,1,1,-ul4 1dhi,1,1,-ucu 1dhj,1,1,-u9l",
  "1dhk,1,1,-ubk 1dhl,1,1,-u7v 1dhm,1,1,-u96 1dhn,1,1,-u55 1dho,1,1,-u3c 1dhp,1,1,-ts9",
  "1dhq,1,1,-tpu 1dhr,1,1,-tod 1dhs,1,1,-th6 1dht,1,1,-t99 1dhu,1,1,-t4r 1dhv,1,1,-t4o",
  "1dhw,1,1,-t32 1dhx,1,1,-s9o 1dhy,1,1,-s7w 1dhz,1,1,-rx2 1di0,1,1,-rlp 1di1,1,1,-rm6",
  "1di2,1,1,-rjs 1di3,1,1,-rct 1di4,1,1,-r3i 1di5,1,1,-pva 1di6,1,1,-qy1 1di7,1,1,-quo",
  "1di8,1,1,-qra 1di9,1,1,-qi8 1dia,1,1,-qe4 1dib,1,1,-qco 1dic,1,1,-q6f 1did,1,1,-q6e",
  "1die,1,1,-q1o 1dif,1,1,-q18 1dig,1,1,-q0k 1dih,1,1,-py7 1dii,1,1,-pyi 1dij,1,1,-pnj",
  "1dik,1,1,-pa3 1dil,1,1,-p2l 1dim,1,1,-oxf 1din,1,1,-or8 1dio,1,1,-on0 1dip,1,1,-odv",
  "1diq,1,1,-o8d 1dir,1,1,-nkx 1dis,1,1,-ngl 1dit,1,1,-mrg 1diu,1,1,-met 1div,1,1,-mcx",
  "1diw,1,1,-mci 1dix,1,1,-m4a 1diy,1,1,-m2q 1diz,1,1,-m40 1dj0,1,1,-m2j 1dj1,1,1,-m2n",
  "1dj2,1,1,-m35 1dj3,1,1,-m12 1dj4,1,1,-lyu 1dj5,1,1,-lo9 1dj6,1,1,-l8q 1dj7,1,1,-l01",
  "1dj8,1,1,-krv 1dj9,1,1,-klr 1dja,1,1,-jt6 1djb,1,1,-jqc 1djc,1,1,-jn6 1djd,1,1,-jji",
  "1dje,1,1,-jij 1djf,1,1,-ji8 1djg,1,1,-jgx 1djh,1,1,-iwr 1dji,1,1,-i0i 1djj,1,1,1njv",
  "1djk,1,1,1njo 1djl,1,1,1ptw 1djm,1,1,-11rp 1djn,1,1,-10vv 1djo,1,1,-10uz 1djp,1,1,1vuc",
  "1djq,1,1,1xx6 1djr,1,1,24n0 1djs,1,1,-i39 1djt,1,1,-i17 1dls,1,1,-1cfy 1dlt,1,1,-1cgh",
  "1dlu,2,1,-1cgf 1dlw,3,1,-1cg9 1dlz,1,1,-1cfz 1dm0,1,1,-1cfy 1dm1,1,1,-1dku 1dn4,1,1,-1cdb",
  "1dn5,1,1,-1cdc 1dn6,1,1,-1cd3 1dn7,1,1,-1cd4 1dn8,1,1,-1cd5 1dn9,1,1,-1cd6 1dna,1,1,-1cd4",
  "1dnb,1,1,-1cd5 1dnc,1,1,-1cd6 1dnd,1,1,-1cd7 1dne,1,1,-1cd6 1dnf,1,1,-1cd7 1dng,1,1,-1cd8",
  "1dnh,1,1,-1cd9 1dni,1,1,-1cdg 1dnj,1,1,-1cdh 1dnk,1,1,-1cdi 1dnl,1,1,-1cdj 1dnm,1,1,-1cdf",
  "1dnn,1,1,-1cdg 1dno,1,1,-1cdh 1dnp,1,1,-1cdi 1dnq,1,1,-1cdp 1dnr,1,1,-1cdq 1dns,1,1,-1cdr",
  "1dnt,1,1,-1cds 1dnu,1,1,-1ccm 1dnv,1,1,-1ccn 1dnw,1,1,-1cco 1dnx,1,1,-1ccp 1dny,1,1,-1cco",
  "1dnz,1,1,-1ccp 1do0,1,1,-1ccq 1do1,1,1,-1ccr 1do2,1,1,-1cdq 1do3,1,1,-1cdr 1do4,1,1,-1cds",
  "1do5,1,1,-1cdt 1do6,1,1,-1cdv 1do7,1,1,-1cdw 1do8,1,1,-1cdx 1do9,1,1,-1cdy 1doa,1,1,-1cdw",
  "1dob,1,1,-1cdx 1doc,1,1,-1cdy 1dod,2,1,-1cdz 1dof,1,1,-1ce0 1dog,1,1,-1ce1 1doh,1,1,-1ce2",
  "1doi,1,1,-1cdx 1doj,1,1,-1cdy 1dok,1,1,-1ce0 1dol,1,1,-1ce1 1dom,1,1,-1ce0 1don,1,1,-1ce1",
  "1doo,1,1,-1ce8 1dop,1,1,-1ce9 1doq,1,1,-1cdu 1dor,1,1,-1cdv 1dos,1,1,-1ce3 1dot,1,1,-1ce4",
  "1dou,1,1,-1cdh 1dov,1,1,-1cdi 1dow,1,1,-1cdj 1dox,1,1,-1cdk 1doy,1,1,-1cdf 1doz,1,1,-1cdg",
  "1dp0,1,1,-1cdh 1dp1,1,1,-1cdi 1dp2,1,1,-1cdf 1dp3,1,1,-1cdg 1dp4,1,1,-1cdh 1dp5,1,1,-1cdi",
  "1dp6,1,1,-1cdl 1dp7,1,1,-1cdm 1dp8,1,1,-1cdn 1dp9,1,1,-1cdo 1dpa,1,1,-1cdg 1dpb,2,1,-1cdh",
  "1dpd,1,1,-1cdi 1dpe,1,1,-1cdj 1dpf,1,1,-1cdk 1dpg,1,1,-1cdg 1dph,2,1,-1cdh 1dpj,1,1,-1cdi",
  "1dpk,1,1,-1cdj 1dpl,1,1,-1cdk 1dpm,1,1,-1cdo 1dpn,1,1,-1cdp 1dpo,1,1,-1cdq 1dpp,1,1,-1cdr",
  "1dpq,1,1,-1cd8 1dpr,2,1,-1cd9 1dpt,1,1,-1cda 1dqr,1,1,-1cfa 1dqs,1,1,-1cfb 1dqt,1,1,-1cfc",
  "1dqu,1,1,-1cfd 1dqv,1,1,-1ceo 1dqw,1,1,-1cep 1dqx,1,1,-1cer 1dqy,1,1,-1ces 1dqz,1,1,-1cer",
  "1dr0,1,1,-1ces 1dr2,1,1,-1cer 1dr3,1,1,-1ces 1dr4,1,1,-1cez 1dr5,1,1,-1cf0 1dr6,1,1,-1cex",
  "1dr7,1,1,-1cey 1dr8,1,1,-1ces 1dr9,1,1,-1cet 1dra,1,1,-1ceu 1drb,1,1,-1cev 1drc,1,1,-1cin",
  "1drd,1,1,-1cio 1drw,1,1,-1cfk 1drx,1,1,-1cfl 1dry,1,1,-1cfm 1drz,1,1,-1cfn 1e6o,1,1,-1e5g",
  "1e6p,1,1,-14pc 1e6r,2,1,-1e55 1e6t,1,1,-1e5w 1e6u,1,1,-1e53 1e6v,2,1,-14ox 1e7l,1,1,-17vh",
  "1e7m,1,1,-17vj 1e7n,1,1,-1e50 1e7o,1,1,-1e51 1e7p,2,1,-1e6l 1e7r,1,1,-1e4c 1e7s,1,1,-1e4b",
  "1e7t,2,1,-14px 1e7v,2,1,-14q3 1e7x,2,1,-14qb 1e7z,2,1,-14qf 1e81,4,1,-14qd 1e87,1,1,-1e5o",
  "1e88,1,1,-1e5n 1e8d,1,1,-1e5q 1e8e,1,1,-1e5r 1e8f,1,1,-1e5s 1e8g,1,1,-1e78 1e8h,1,1,-14r4",
  "1e8k,1,1,-1e6x 1e8l,1,1,-1e6z 1e8m,1,1,-1e6v 1e8n,1,1,-1e7q 1e8o,1,1,-17wk 1e8p,2,1,-1e7l",
  "1e8r,1,1,-1e5c 1e8s,1,1,-1e5b 1e8t,2,1,-14qx 1e8v,1,1,-1e7w 1e8w,1,1,-1e7u 1e8x,2,1,-1e7r",
  "1e8z,1,1,-1e7q 1e90,1,1,-1e7c 1e91,1,1,-1e7b 1e92,1,1,-1e7d 1e94,1,1,-1e6k 1e95,2,1,-1e85",
  "1e97,1,1,-1e7f 1e9s,2,1,-1d27 1e9u,2,1,-1d28 1e9w,2,1,-1d29 1e9y,2,1,-1d2a 1ea0,2,1,-1d2b",
  "1ea2,1,1,-1d2c 1ea3,1,1,-1d2d 1ea4,2,1,-1d2e 1ea6,2,1,-1d2f 1ea8,1,1,-1d2g 1ea9,1,1,-1d2h",
  "1eaa,2,1,-1d2i 1eac,2,1,-1d2j 1eae,1,1,-1d2k 1eaf,1,1,-1d2l 1eag,2,1,-1d2m 1eai,1,1,-1d2n",
  "1eaj,1,1,-1d2o 1eak,2,1,-1d2p 1eam,1,1,-1d2q 1ean,1,1,-1d2r 1eao,2,1,-1d2s 1eaq,1,1,-1d2t",
  "1ear,1,1,-1d2u 1eas,2,1,-1d2v 1eau,1,1,-1d2w 1eav,1,1,-1d2x 1eaw,2,1,-1d2y 1eay,2,1,-1d2z",
  "1eb0,2,1,-1d30 1eb2,2,1,-1d31 1eb4,2,1,-1d32 1eb6,1,1,-1d33 1eb7,1,1,-1d34 1eb8,2,1,-1d35",
  "1eba,1,1,-1d36 1ebb,1,1,-1d37 1ebc,2,1,-1d38 1ebe,1,1,-1d39 1ebf,1,1,-1d3a 1ebg,2,1,-1d3b",
  "1ebi,1,1,-1d3c 1ebj,1,1,-1d3d 1ebk,2,1,-1d3e 1ebm,1,1,-1d3f 1ebn,1,1,-1d3g 1ebo,2,1,-1d3h",
  "1ebq,1,1,-1d3i 1ebr,1,1,-1d3j 1ebs,2,1,-1d3k 1ebu,1,1,-1d3l 1ebv,1,1,-1d3m 1ebw,2,1,-1d3n",
  "1eby,1,1,-1d3o 1ebz,1,1,-1d3p 1ec0,1,1,-1d3q 1ec1,1,1,-1d3k 1ec2,1,1,-1d3l 1ec3,1,1,-1d3m",
  "1ec4,2,1,-1d3n 1ec6,1,1,-1d3o 1ec7,1,1,-1d3p 1ec8,2,1,-1d3q 1eca,1,1,-1d3r 1ecb,1,1,-1d3s",
  "1ecc,2,1,-1d3t 1ece,1,1,-1d3u 1ecf,1,1,-1d3v 1ecg,2,1,-1d3w 1eci,1,1,-1d3x 1ecj,1,1,-1d3y",
  "1eck,2,1,-1d3z 1ecm,1,1,-1d40 1ecn,1,1,-1d41 1eco,2,1,-1d42 1ecq,1,1,-1d43 1ecr,1,1,-1d44",
  "1ecs,2,1,-1d45 1ecu,2,1,-1d46 1ecw,2,1,-1d47 1ecy,1,1,-1d48 1ecz,1,1,-1d49 1ed0,1,1,-1d4a",
  "1edd,w,1,-1ecg 1ee9,q,1,-1ebk 1eez,10,1,-1ecg 1efz,2,1,-168q 1eg1,1,1,-1eer 1eg2,2,1,-14ye",
  "1eg4,1,1,-14yr 1eg5,1,1,-14ru 1eg6,1,1,-14s4 1eg7,1,1,-14ue 1eg8,1,1,-14ud 1eg9,1,1,-14uc",
  "1ega,1,1,-14ub 1egb,1,1,-14ua 1egc,1,1,-14sp 1egd,1,1,-14so 1ege,1,1,-14sn 1egf,1,1,-14to",
  "1egg,1,1,-14s4 1egh,1,1,-14un 1egi,1,1,-14um 1egj,1,1,-14ul 1egk,1,1,-14uk 1egl,2,1,-14uj",
  "1egn,1,1,-14ui 1ego,1,1,-14uh 1egp,1,1,-14ug 1egq,1,1,-14uf 1egr,1,1,-14ue 1egs,1,1,-14ud",
  "1egt,1,1,-14uc 1egu,1,1,-14ub 1egv,1,1,-14ua 1egw,1,1,-14u9 1egx,1,1,-14u8 1egy,1,1,-14u6",
  "1egz,1,1,-14u5 1eh0,1,1,-14u4 1eh1,6,1,-14u3 1eh7,1,1,-14u1 1eh8,1,1,-14tz 1eh9,1,1,-14tx",
  "1eha,1,1,-14tv 1ehb,5,1,-14tt 1ehg,1,1,-14ts 1ehh,1,1,-14tr 1ehi,6,1,-14tq 1eho,1,1,-14tp",
  "1ehp,1,1,-14tm 1ehq,2,1,-14w5 1eht,2,1,-1b4x 1ehv,1,1,-1b09 1ehw,1,1,-1b4y 1ehx,2,1,-1b09",
  "1ehz,3,1,-1b50 1ei2,6,1,-1b0a 1ei8,1,1,-1b4m 1ei9,3,1,-1b57 1eic,1,1,-1b4j 1eid,a,1,-1b58",
  "1eiq,6,1,-1b35 1eiy,6,1,-1b37 1ej6,6,1,-1b39 1eje,3,1,-1b3b 1ejk,2,1,-1ef2 1ejm,1,1,-1eeu",
  "1ejo,1,1,-1ef2 1ejp,1,1,-1ef4 1ejq,1,1,-183h 1ejs,1,1,-178m 1ejt,4,1,-17x5 1ejx,1,1,-174d",
  "1ejy,1,1,-1737 1fcw,14,1,14 1fhs,10,1,14 1fn4,b,1,13 1fng,f,1,13 1fnw,7,1,13 1fo4,2,1,13",
  "1g1t,2,1,-1fht 1g1v,1,1,-1fvh 1g1w,1,1,-1fjf 1g1x,1,1,-1fle 1g1z,1,1,-1fj8 1g20,1,1,-i76",
  "1g21,1,1,-1fj8 1g22,1,1,-1fja 1g23,2,1,-1flh 1g25,1,1,-1a7w 1g26,1,1,-1fli 1g27,1,1,-1fld",
  "1g28,1,1,-1fjb 1g29,1,1,-1fl9 1g2a,1,1,-1flc 1g2b,1,1,-1flf 1g2c,1,1,-1fjt 1g2d,1,1,-1fu6",
  "1g2e,1,1,-1fju 1g2f,1,1,-1flc 1g2g,1,1,-1fkk 1g2h,2,1,-1fjj 1g2j,1,1,-1flb 1g2k,1,1,16js",
  "1g2l,1,1,-iz3 1g2m,1,1,-1flc 1g2n,1,1,16jq 1g2o,1,1,-1fki 1g2p,1,1,16jp 1g2q,1,1,-1fvu",
  "1g2r,2,1,-1fl9 1g2t,1,1,-1fzo 1g2u,1,1,-1fl8 1g2v,1,1,16jl 1g2w,2,1,-1fl7 1g2y,1,1,-1fl6",
  "1g2z,1,1,-1fk3 1g30,1,1,-1fk6 1g31,1,1,-i86 1g32,1,1,-1fk7 1g33,1,1,-1fl3 1g34,1,1,-17b3",
  "1g36,1,1,-1fkz 1g37,2,1,-1fki 1g39,1,1,-1fkt 1g3a,3,1,-1fqu 1g3d,1,1,16j5 1g3e,1,1,16jo",
  "1h1c,1f,1,1s 1h74,m,1,w 1jfk,w,1,w 20cg,w,1,w 20f4,p,1,r 2j12,q,1,-2iyd 2j1s,a,1,-2j0g",
  "2kg0,q,1,-2kdb 2kgq,q,1,-2ke1 2khg,q,1,-2ker 2ki6,7,1,-2kfh 2kie,i,1,-2kfh 2kiw,q,1,-2kg7",
  "2kjm,q,1,-2kgx 2kkc,2,2,-2khn 2kkf,1,1,-2khn 2kki,1,1,-2khn 2kkl,2,1,-2khn 2kkp,4,1,-2khn",
  "2kku,8,1,-2khn 2kl2,4,1,-2kid 2kl7,2,2,-2kid 2kla,6,1,-2kid 2klh,b,1,-2kid 2kls,q,1,-2kj3",
  "2kmi,q,1,-2kjt 2kn8,2,1,-2kkj 2knb,4,1,-2kkj 2knh,8,1,-2kkj 2knq,7,1,-2kkj 2kny,q,1,-2kl9",
  "2koo,2,1,-2klz 2kor,4,1,-2klz 2kow,5,1,-2klz 2kp2,1,1,-2klz 2kp6,7,1,-2klz 2kpe,q,1,-2kmp",
  "2kq4,q,1,-2knf 2kqu,q,1,-2ko5 2krk,q,1,-2kov 2ksa,q,1,-2kpl 2kt0,q,1,-2kqb 2ktq,q,1,-2kr1",
  "2kug,q,1,-2krr 2kv6,q,1,-2ksh 2kvw,q,1,-2kt7 2kwm,q,1,-2ktx 2kxc,q,1,-2kun 2ky2,q,1,-2kvd",
  "2kys,1,1,-2kqb 2kyt,1,1,-2kj2 2kyw,h,1,-2k8n 2kzd,1,1,-2k8x 2kze,7,1,-2k8n 2kzl,1,1,-2e9m",
  "2kzm,h,1,-2k9d 2l03,1,1,-2k9c 2l04,7,1,-2k9d 2l0b,1,1,-2eah 2l0c,1,1,-2k9z 2l0d,1,1,-2k9x",
  "2l0e,1,1,-2k9w 2l0f,1,1,-2k9l 2l0g,1,1,-2k9r 2l0h,1,1,-2k9t 2l0i,h,1,-2ka9 2l0z,1,1,-2kaj",
  "2l10,7,1,-2ka9 2l17,1,1,-2eb8 2l18,h,1,-2kaz 2l1p,1,1,-2kay 2l1q,7,1,-2kaz 2l1x,1,1,-2ec3",
  "2l1y,1,1,-2kbl 2l1z,1,1,-2kbj 2l20,1,1,-2kbi 2l21,1,1,-2kb7 2l22,1,1,-2kbd 2l23,1,1,-2kbf",
  "2l24,h,1,-2kbv 2l2l,1,1,-2kc5 2l2m,7,1,-2kbv 2l2t,1,1,-2ecu 2l2u,h,1,-2kcl 2l3b,1,1,-2kck",
  "2l3c,7,1,-2kcl 2l3j,1,1,-2edp 2l3k,1,1,-2kd7 2l3l,1,1,-2kd5 2l3m,1,1,-2kd4 2l3n,1,1,-2kct",
  "2l3o,1,1,-2kcz 2l3p,1,1,-2kd1 2l3q,h,1,-2kdh 2l47,1,1,-2kdr 2l48,7,1,-2kdh 2l4f,1,1,-2eeg",
  "2l4g,h,1,-2ke7 2l4x,1,1,-2ke6 2l4y,7,1,-2ke7 2l55,1,1,-2efb 2l56,1,1,-2ket 2l57,1,1,-2ker",
  "2l58,1,1,-2keq 2l59,1,1,-2kef 2l5a,1,1,-2kel 2l5b,1,1,-2ken 2l5c,h,1,-2kf3 2l5t,1,1,-2kfd",
  "2l5u,7,1,-2kf3 2l61,1,1,-2eg2 2l62,h,1,-2kft 2l6j,1,1,-2kfs 2l6k,7,1,-2kft 2l6r,1,1,-2egx",
  "2l6s,1,1,-2kgf 2l6t,1,1,-2kgd 2l6u,1,1,-2kgc 2l6v,1,1,-2kg1 2l6w,1,1,-2kg7 2l6x,1,1,-2kg9",
  "2l6y,1,1,-2kfh 2l6z,1,1,-2kfi 2l72,a,1,-2l5q 2l7c,a,1,-2l60 2l7m,a,1,-2l6a 2l7w,a,1,-2l6k",
  "2l86,a,1,-2l6u 2muo,9,1,-2m0w 2mux,3,1,-2m0v 2mv0,b,1,-2m0u 2mvb,1,1,-2m0s 2mvc,2,1,-2m0r",
  "2mve,1,1,-1pz5 2mvf,1,1,-2lwy 2mvg,1,1,-2m0m 2mvh,1,1,-2m0l 2mvi,1,1,-2lwl 2mvj,1,1,-2ly8",
  "2mvk,1,1,-2lxd 2mvl,9,1,-2m1t 2mvu,2,1,-2m1s 2mvw,2,1,-2m1q 2mvy,1,1,-2m1p 2mvz,6,1,-2m1o",
  "2mw5,2,1,-2m1n 2mw7,1,1,-2lzq 2mw8,1,1,-2m1e 2mw9,1,1,-2m1g 2mwa,1,1,-2m17 2mwb,1,1,-2lz4",
  "2mwc,1,1,-1q1n 2mwd,1,1,-2lz0 2olc,y,1,y 2pkw,2,1,-2od5 2pky,1,1,-2od2 2pkz,1,1,-2od0",
  "2pl1,1,1,-2ocd 2pl2,1,1,-2od0 2pl3,1,1,-2od6 2pl4,1,1,-2ocx 2pl5,1,1,-2ocf 2pl6,4,1,-2ocn",
  "2pla,1,1,-2od7 2plb,1,1,-2od2 2plc,1,1,-2ocv 2pld,1,1,-2od8 2ple,1,1,-2ocw 2plf,1,1,-2ode",
  "2plg,1,1,-2odc 2plh,2,1,-2odn 2plj,1,1,-2odl 2plk,1,1,-2odk 2pll,1,1,-2odf 2plm,1,1,-2ode",
  "2pln,1,1,-2odd 2plo,1,1,-2oby 2plp,1,1,-2o9v 2plq,1,1,-2oal 2plr,1,1,-2oc0 2plt,1,1,-2oe1",
  "2plu,1,1,-2ody 2plw,1,1,-2od9 2plz,1,1,-2oe2 2pm1,1,1,-2odb 2pm2,4,1,-2odj 2pm6,1,1,-2oe3",
  "2pm7,1,1,-2ody 2pm8,1,1,-2odr 2pm9,1,1,-2oe4 2pma,1,1,-2ods 2pmc,1,1,-2oe8 2pmd,2,1,-2oej",
  "2pmf,1,1,-2oeh 2pmh,1,1,-2oeb 2pmj,1,1,-2oe9 2pmq,1,1,-2oeu 2pmv,1,1,-2oey 2pmx,1,1,-2oe7",
  "2pmz,2,2,-2oef 2pn2,1,1,-2oez 2pn3,1,1,-2oeu 2pn5,1,1,-2of0 2pn6,1,1,-2oeo 2pn8,1,1,-2of4",
  "2pnb,1,1,-2ofd 2pnd,1,1,-2of7 2pnf,1,1,-2of5 2pnh,1,1,-2obn 2pnj,1,1,-2ods 2pnl,1,1,-2oft",
  "2pnm,1,1,-2ofq 2pno,1,1,-2of1 2pnr,1,1,-2ofu 2pns,1,1,-2ofl 2pnt,1,1,-2of3 2pnu,2,2,-2ofb",
  "2pnx,1,1,-2ofb 2pny,1,1,-2ofv 2pnz,1,1,-2ofq 2po0,1,1,-2ofj 2po1,1,1,-2ofw 2po2,1,1,-2ofk",
  "2po4,1,1,-2og0 2po5,2,1,-2ogb 2po7,1,1,-2og9 2po9,1,1,-2og3 2poa,1,1,-2og2 2pob,1,1,-2og1",
  "2poc,1,1,-2oem 2poe,1,1,-2od9 2pog,2,1,-2ogp 2poi,1,1,-2ogm 2poj,1,1,-2ogk 2pok,2,1,-2ofx",
  "2pom,1,1,-2ogk 2pon,1,1,-2ogq 2poo,1,1,-2ogh 2pop,1,1,-2ofz 2por,3,1,-2og7 2pou,1,1,-2ogr",
  "2pov,1,1,-2ogm 2pow,1,1,-2ogf 2pox,1,1,-2ogs 2poy,1,1,-2ogg 2poz,1,1,-2ogy 2pp0,1,1,-2ogw",
  "2pp1,2,1,-2oh7 2pp3,1,1,-2oh5 2pp4,1,1,-2oh4 2pp5,1,1,-2ogz 2pp6,1,1,-2ogy 2pp7,1,1,-2ogx",
  "2ppd,1,1,-2ohl 2ppe,1,1,-2ohi 2ppf,1,1,-2ohg 2pph,1,1,-2ogt 2ppi,1,1,-2ohg 2ppj,1,1,-2ohm",
  "2ppk,1,1,-2ohd 2ppl,1,1,-2ogv 2ppn,3,1,-2oh3 2ppq,1,1,-2ohn 2ppr,1,1,-2ohi 2pps,1,1,-2ohb",
  "2ppt,1,1,-2oho 2ppu,1,1,-2ohc 2ppv,1,1,-2ohu 2ppw,1,1,-2ohs 2ppx,2,1,-2oi3 2ppz,1,1,-2oi1",
  "2pq0,1,1,-2oi0 2pq1,1,1,-2ohv 2pq2,1,1,-2ohu 2pq3,1,1,-2oht 2q7f,1,1,-2q4o 2q7g,1,1,-2q4a",
  "2q7k,q,1,-2q4v 2qde,1,1,-2gr1 2qds,1,1,-26yt 2qdt,1,1,-28ca 2qdu,1,1,-29ty 2qdv,1,1,-2gr0",
  "2qdw,1,1,-2avc 2qdx,1,1,-28sb 2qdy,1,1,-1z5f 2qdz,1,1,-28ry 2qe0,1,1,-2aus 2qe1,1,1,-267t",
  "2qe2,1,1,-241l 2qe3,1,1,-26bm 2qe4,1,1,-2a4v 2qe5,1,1,-27ip 2qe6,1,1,-2aa9 2qe7,1,1,-26b3",
  "2qe8,1,1,-2a6b 2qe9,1,1,-21nj 2qea,1,1,-239f 2qeb,1,1,-1ym2 2qec,1,1,-28tw 2qed,1,1,-29rg",
  "2qee,1,1,-24gi 2qef,1,1,-26xe 2qeg,1,1,-26s3 2qeh,1,1,-2azt 2qei,1,1,-2azl 2qej,1,1,-1xwh",
  "2qek,1,1,-27uu 2qel,1,1,-2ayo 2qem,1,1,-29tn 2qen,1,1,-26ug 2qeo,1,1,-1ygw 2qep,1,1,-26zi",
  "2qeq,1,1,-22ep 2qer,1,1,-227t 2qes,1,1,-29t8 2qet,1,1,-24l1 2qeu,1,1,-2625 2qev,1,1,-2627",
  "2qew,1,1,-239h 2qex,1,1,-2a4n 2qey,1,1,-29hg 2qez,1,1,-1xpq 2qfk,1,1,-27jt 2qfl,1,1,-29uq",
  "2sc0,a,1,-2sao 464g,1,1,-3qo3 464h,1,1,-3qo9 464i,1,1,-3qo1 464j,1,1,-1crl 464k,1,1,-3qg4",
  "464l,1,1,-3qdz 464m,1,1,-3qdn 464n,1,1,-3qbp 464o,1,1,-3q8e 464p,1,1,-3q7k 464q,1,1,-3q5f",
  "464r,1,1,-3q64 464s,1,1,-3vqm 464t,1,1,-1brn 464u,1,1,-3q2p 464v,1,1,-3q2j 464w,1,1,-3q24",
  "464x,1,1,-3q1m 464y,1,1,-1bzq 464z,1,1,-3vq2 4650,1,1,-3q25 4651,1,1,-3q14 4652,1,1,-1byj",
  "4653,1,1,-3q0w 4654,1,1,-3q0k 4655,1,1,-3qkt 4656,1,1,-3q0e 4657,1,1,-3q06 4658,1,1,-k71",
  "4659,1,1,-3pyg 465a,1,1,-3py3 465b,1,1,-3vpc 465c,1,1,-3pwl 465d,1,1,-3pwb 465e,1,1,-3pv4",
  "465f,1,1,-3pv0 465g,1,1,-3vnz 465h,1,1,-3psu 465i,1,1,-3pst 465j,1,1,-3ps3 465k,1,1,-3pri",
  "465l,2,1,-3pr8 465n,1,1,-3pqs 465o,1,1,-3ppf 465p,1,1,-3pp8 465q,1,1,-3pp0 465r,1,1,-3poc",
  "465s,1,1,-3po3 465t,1,1,-3po2 465u,1,1,-3po3 465v,1,1,-3po4 465w,1,1,-1b0o 465x,1,1,-3jyd",
  "465y,1,1,-3pm4 465z,1,1,-3plk 4660,1,1,-1as5 4661,1,1,-3pla 4662,1,1,-3pl5 4663,1,1,-3pkl",
  "4664,1,1,-3pge 4665,1,1,-3pj9 4666,1,1,-3piu 4667,1,1,-3phz 4668,1,1,-3pge 4669,1,1,-3pe3",
  "466a,1,1,-3pde 466b,1,1,-3pbk 466c,1,1,-3pb5 466d,1,1,-3pa9 466e,1,1,-3paa 466f,1,1,-3p9q",
  "466g,1,1,-3p99 466h,1,1,-3p92 466i,1,1,-3p8o 466j,1,1,-3oz9 466k,1,1,-3p6u 466l,1,1,-3oza",
  "466m,1,1,-3p4t 466n,1,1,-3p3v 466o,1,1,-3pzd 466p,1,1,-3omb 466q,1,1,-3ouc 466r,1,1,-3otb",
  "466s,1,1,-3osn 466t,1,1,-3owa 466u,1,1,-3oro 466v,1,1,-3orq 466w,1,1,-3ooc 466x,1,1,-18xh",
  "466y,1,1,-3omg 466z,1,1,-3omc 4670,1,1,-3oly 4671,1,1,-3olf 4672,1,1,-3ol8 4673,1,1,-3ojh",
  "4674,1,1,-18l4 4675,1,1,-18jb 4676,1,1,-3ofq 4677,1,1,-3oeg 4678,1,1,-3oe5 4679,1,1,-3ogd",
  "467a,1,1,-3ocg 467b,1,1,-3vcp 467c,1,1,-3vcc 467d,1,1,-3o81 467e,1,1,-3o6k 467f,1,1,-3o6l",
  "467g,1,1,-17z8 467h,1,1,-3o2y 467i,1,1,-3o2e 467j,1,1,-3o20 467k,1,1,-3o1p 467l,1,1,-17q1",
  "467m,1,1,-3o1f 467n,1,1,-3o19 467o,1,1,-3ndt 467p,1,1,-3o0j 467q,1,1,-3v91 467r,1,1,-3nyv",
  "467s,1,1,-3nyi 467t,1,1,-3nw9 467u,1,1,-3nxp 467v,1,1,-176f 467w,1,1,-3nsp 467x,1,1,-176f",
  "467y,1,1,-3nrk 467z,1,1,-3nro 4680,1,1,-3nr8 4681,2,1,-3nog 4683,1,1,-3v4k 4684,1,1,-3nnr",
  "4685,1,1,-3nml 4686,1,1,-3nm1 4687,1,1,-3nku 4688,1,1,-3v3a 4689,1,1,-16h2 468a,1,1,-3v2m",
  "468b,1,1,-3niz 468c,1,1,-3nix 468d,1,1,-3niv 468e,1,1,-3nic 468f,1,1,-gsd 468g,1,1,-3ngy",
  "468h,1,1,-165c 468i,1,1,-165d 468j,1,1,-3gk2 468k,1,1,-3ng2 468l,1,1,-3ng3 468m,1,1,-3v0v",
  "468n,1,1,-1333 468o,1,1,-try 468p,1,1,-3nef 468q,1,1,-3ne7 468r,1,1,-3v08 468s,1,1,-3ncy",
  "468t,1,1,-3nbk 468u,1,1,-3nbb 468v,1,1,-3nae 468w,1,1,-3n6n 468x,1,1,-3uxz 468y,1,1,-3uyu",
  "468z,1,1,-3n67 4690,1,1,-15g0 4691,1,1,-3n4u 4692,1,1,-3n1a 4693,1,1,-3n17 4694,1,1,-3n16",
  "4695,1,1,-3n19 4696,1,1,-3n00 4697,1,1,-3mzh 4698,1,1,-3myi 4699,1,1,-3myx 469a,1,1,-3myn",
  "469b,1,1,-3mxd 469c,1,1,-3mwu 469d,1,1,-3mwr 469e,1,1,-3mw2 469f,1,1,-3mvs 469g,1,1,-3mtz",
  "469h,1,1,-3mro 469i,1,1,-3mqq 469j,1,1,-3mnb 469k,1,1,-14mk 469l,1,1,-3mnw 469m,1,1,-3mpq",
  "469n,1,1,-3mmr 469o,1,1,-3mm1 469p,1,1,-3mjd 469q,1,1,-14gd 469r,1,1,-3mhp 469s,1,1,-3mkb",
  "469t,1,1,-3ml4 469u,1,1,-3us4 469v,1,1,-3mfu 469w,1,1,-3mfa 469x,1,1,-3meg 469y,1,1,-3mfj",
  "469z,1,1,-3uqj 46a0,1,1,-3m9l 46a1,1,1,-3m8t 46a2,1,1,-13nk 46a3,1,1,-3m5k 46a4,1,1,-3lxw",
  "46a5,1,1,-3m2s 46a6,1,1,-3ulx 46a7,1,1,-3m0u 46a8,1,1,-3umg 46a9,1,1,-3unh 46aa,1,1,-3q68",
  "46ab,1,1,-3q66 46ac,1,1,-3lxw 46ad,1,1,-3m0p 46ae,1,1,-3gvd 46af,1,1,-3svy 46ag,1,1,-3lxd",
  "46ah,1,1,-3lxa 46ai,1,1,-3lx5 46aj,1,1,-3lvh 46ak,1,1,-3lvt 46al,1,1,-12xm 46am,1,1,-3ul1",
  "46an,1,1,-3lr9 46ao,1,1,-3luj 46ap,1,1,-3lov 46aq,1,1,-3lnh 46ar,1,1,-12t2 46as,1,1,-3lna",
  "46at,1,1,-3lqe 46au,1,1,-3ljm 46av,1,1,-3uiy 46aw,1,1,-3lie 46ax,1,1,-3lfq 46ay,1,1,-3lds",
  "46az,1,1,-3l8j 46b0,1,1,-12dl 46b1,1,1,-3l76 46b2,1,1,-3ufq 46b3,1,1,-3l5a 46b4,1,1,-11zd",
  "46b5,1,1,-3l3x 46b6,1,1,-3uec 46b7,1,1,-3l35 46b8,1,1,-3l1x 46b9,2,1,-3l17 46bb,1,1,-11m2",
  "46bc,1,1,-17fx 46bd,1,1,-11j3 46be,1,1,-3kx8 46bf,1,1,-116n 46bg,1,1,-3ku5 46bh,1,1,-3kts",
  "46bi,1,1,-3kwn 46bj,1,1,-3krt 46bk,1,1,-3kqq 46bl,1,1,-3kp6 46bm,1,1,-3kqp 46bn,1,1,-3kpm",
  "46bo,1,1,-3kp8 46bp,1,1,-3kow 46bq,1,1,-1148 46br,1,1,-3kr7 46bs,1,1,-3kk9 46bt,1,1,-3kij",
  "46bu,1,1,-3u8n 46bv,1,1,-3kg0 46bw,1,1,-3kg5 46bx,1,1,-10sc 46by,1,1,-3klx 46bz,1,1,-3kbl",
  "46c0,1,1,-10oi 46c1,1,1,-10n7 46c2,1,1,-3k98 46c3,1,1,-3k62 46c4,1,1,-3k6u 46c5,1,1,-3k6y",
  "46c6,1,1,-3u68 46c7,1,1,-3k5p 46c8,1,1,-3k4b 46c9,1,1,-3k4i 46ca,1,1,-3k31 46cb,1,1,-1c6u",
  "46cc,1,1,-3jyv 46cd,1,1,-103e 46ce,1,1,-3jwi 46cf,1,1,-zuc 46cg,1,1,-3jso 46ch,1,1,-3jsc",
  "46ci,1,1,-3jrm 46cj,1,1,-zdn 46ck,1,1,-3jqc 46cl,1,1,-3jps 46cm,1,1,-z5d 46cn,1,1,-yz7",
  "46co,1,1,-3jji 46cp,1,1,-3jj2 46cq,1,1,-3tz2 46cr,1,1,-3jie 46cs,1,1,-3tys 46ct,1,1,-3tyt",
  "46cu,1,1,-3jdz 46cv,1,1,-3jdf 46cw,1,1,-3jcv 46cx,1,1,-3jcc 46cy,1,1,-3jag 46cz,1,1,-3tw8",
  "46d0,1,1,-3j80 46d1,1,1,-y67 46d2,1,1,-3j7c 46d3,1,1,-y3p 46d4,1,1,-3j60 46d5,1,1,-16l6",
  "46d6,1,1,-3j1m 46d7,1,1,-xi2 46d8,1,1,-xhg 46d9,1,1,-xdl 46da,1,1,-3tqa 46db,1,1,-3tpz",
  "46dc,1,1,-3ivg 46dd,1,1,-x8u 46de,1,1,-x8w 46df,1,1,-x7u 46dg,1,1,-x75 46dh,2,1,-3iuf",
  "46dj,1,1,-3iug 46dk,1,1,-3ita 46dl,1,1,-3tow 46dm,1,1,-3irj 46dn,1,1,-3tol 46do,1,1,-3tme",
  "46dp,1,1,-wmo 46dq,1,1,-3im8 46dr,1,1,-3ikj 46ds,1,1,-3iis 46dt,1,1,-3tke 46du,1,1,-w8c",
  "46dv,1,1,-3if1 46dw,1,1,-w56 46dx,1,1,-w40 46dy,1,1,-3idj 46dz,1,1,-3ib0 46e0,1,1,-3tih",
  "46e1,1,1,-3i8p 46e2,1,1,-3i8g 46e3,1,1,-3i8c 46e4,1,1,-vkw 46e5,1,1,-vcm 46e6,1,1,-vcn",
  "46e7,1,1,-3i41 46e8,1,1,-3tcu 46e9,1,1,-v5i 46ea,1,1,-3hy4 46eb,1,1,-3hy2 46ec,1,1,-3tbx",
  "46ed,1,1,-uzp 46ee,1,1,-3hqs 46ef,1,1,-3t8n 46eg,1,1,-3hq8 46eh,1,1,-3hqe 46ei,1,1,-3hpm",
  "46ej,1,1,-ued 46ek,1,1,-3hmx 46el,1,1,-3t64 46em,1,1,-3hk7 46en,1,1,-3hil 46eo,1,1,-3hgr",
  "46ep,1,1,-3t4t 46eq,1,1,-tvu 46er,1,1,-tv0 46es,1,1,-3t3v 46et,1,1,-tr0 46eu,1,1,-3h8c",
  "46ev,1,1,-to9 46ew,1,1,-3h7n 46ex,1,1,-3h4v 46ey,1,1,-3h4l 46ez,1,1,-tcx 46f0,1,1,-tax",
  "46f1,1,1,-3h25 46f2,1,1,-t7a 46f3,1,1,-3h1r 46f4,1,1,-134x 46f5,1,1,-3t0s 46f6,1,1,-3h00",
  "46f7,1,1,-3gxs 46f8,1,1,-3szd 46f9,1,1,-3gw7 46fa,1,1,-3oi9 46fb,1,1,-stc 46fc,1,1,-ssz",
  "46fd,1,1,-133q 46fe,1,1,-133i 46ff,1,1,-3gqy 46fg,1,1,-3gqw 46fh,1,1,-3e27 46fi,1,1,-3swz",
  "46fj,1,1,-3gn2 46fk,1,1,-3gn9 46fl,1,1,-3gms 46fm,1,1,-3q3j 46fn,1,1,-3gma 46fo,1,1,-3gm9",
  "46fp,1,1,-3gm0 46fq,1,1,-3gkw 46fr,1,1,-s4b 46fs,1,1,-3gkz 46ft,1,1,-3gjg 46fu,1,1,-3ghj",
  "46fv,1,1,-3gfi 46fw,1,1,-3gjd 46fx,1,1,-3gf4 46fy,1,1,-3gdz 46fz,1,1,-3gaw 46g0,1,1,-3gi5",
  "46g1,1,1,-3gev 46g2,1,1,-3geu 46g3,1,1,-3gef 46g4,1,1,-rxq 46g5,1,1,-rp6 46g6,1,1,-rtd",
  "46g7,1,1,-3ssc 46g8,1,1,-3g6v 46g9,1,1,-3g6u 46ga,1,1,-3g5w 46gb,1,1,-qg1 46gc,1,1,-3g3s",
  "46gd,1,1,-rcx 46ge,1,1,-3sr5 46gf,1,1,-3sr2 46gg,1,1,-r9b 46gh,1,1,-r1b 46gi,1,1,-3sqv",
  "46gj,1,1,-3fxf 46gk,1,1,-3fx4 46gl,1,1,-3fwu 46gm,1,1,-3fwt 46gn,1,1,-3fv2 46go,1,1,-3fw0",
  "46gp,1,1,-3fsb 46gq,1,1,-3ftk 46gr,1,1,-3fpe 46gs,1,1,-3fro 46gt,1,1,-3fpu 46gu,1,1,-3fp4",
  "46gv,1,1,-3so8 46gw,1,1,-3fmn 46gx,1,1,-3fls 46gy,1,1,-3snd 46gz,1,1,-3fj7 46h0,1,1,-3fj5",
  "46h1,1,1,-py6 46h2,1,1,-3ffz 46h3,1,1,-3fft 46h4,1,1,-3slv 46h5,1,1,-3ff3 46h6,1,1,-3w27",
  "46h7,1,1,-pi5 46h8,1,1,-pd2 46h9,1,1,-3si7 46ha,1,1,-3shz 46hb,1,1,-3f3j 46hc,1,1,-3f1f",
  "46hd,1,1,-3ex3 46he,1,1,-3erh 46hf,1,1,-oq3 46hg,1,1,-3ep5 46hh,1,1,-3eok 46hi,1,1,-3em3",
  "46hj,1,1,-3ejk 46hk,1,1,-o89 46hl,1,1,-1brp 46hm,1,1,-3ehb 46hn,1,1,-3ehr 46ho,1,1,-3egc",
  "46hp,1,1,-1blr 46hq,1,1,-3ea2 46hr,1,1,-3e7b 46hs,1,1,-mxa 46ht,1,1,-mwk 46hu,1,1,-3dxq",
  "46hv,1,1,-3dv6 46hw,1,1,-3dub 46hx,1,1,-mnr 46hy,1,1,-3du3 46hz,1,1,-3dm7 46i0,2,1,-3dht",
  "46i2,1,1,-3dke 46i3,1,1,-3d9u 46i4,1,1,-3d93 46i5,1,1,-lpv 46i6,1,1,-3cyr 46i7,1,1,-3ryy",
  "46i8,1,1,-3cxl 46i9,1,1,-lfe 46ia,1,1,-3rws 46ib,1,1,-3cq8 46ic,1,1,-3o02 46id,1,1,-3cnm",
  "46ie,1,1,-koh 46if,1,1,-kil 46ig,1,1,-3rt6 46ih,1,1,-3rsz 46ii,1,1,-3cii 46ij,1,1,-k4x",
  "46ik,1,1,-3rre 46il,1,1,-k13 46im,1,1,-3chf 46in,1,1,-3chg 46io,1,1,-3cgn 46ip,1,1,-jt7",
  "46iq,1,1,-3cbk 46ir,1,1,-3ro0 46is,1,1,-3c9n 46it,1,1,-3c66 46iu,1,1,-3c5g 46iv,1,1,-3c3t",
  "46iw,1,1,-3rju 46ix,1,1,-iqh 46iy,1,1,-3bw8 46iz,1,1,-3bnv 46j0,1,1,-3bin 46j1,1,1,-3rcv",
  "46j2,1,1,-3rc1 46j3,1,1,-3bfs 46j4,1,1,-hmq 46j5,1,1,-3rbt 46j6,1,1,-hl9 46j7,1,1,-hdx",
  "46j8,1,1,-hab 46j9,1,1,-3b6i 46ja,1,1,-3r9c 46jb,1,1,-3b4u 46jc,1,1,-3b4q 46jd,1,1,-3b4k",
  "46je,1,1,-3b4b 46jf,1,1,-3b45 46jg,1,1,-3b35 46jh,1,1,-gm5"]

/-- A code point and the several that it becomes. -/
def domainExpansionTable : List String := [
  "4o,w,lk 4v,w,lg 50,w,ld 54,w,mf 58,1d,6dg,1g 59,1d,6dg,1e 5a,1f,6dg,1g 8g,2x,lj 8i,2x,2y",
  "8j,2x,2y 8v,30,53 8w,30,53 95,jg,32 ck,2s,am cl,2s,am cm,2s,am cn,30,2y co,30,2y cp,30,2y",
  "cq,32,2y cr,32,2y cs,32,2y dt,2s,3e du,2s,3e dv,2s,3e k8,w,li k9,w,lj ka,w,lm kb,w,mg kc,w,lf",
  "kd,w,ln n8,lk,ld oq,w,qh p0,w,ld p1,w,lk,ld 13b,12d,136 19x,17r,19w 19y,18o,19w 19z,1c7,19w",
  "1a0,18q,19w 1ug,1sl,1to 1uh,1sm,1to 1ui,1sn,1to 1uj,1ss,1to 1uk,1sx,1to 1ul,1sy,1to 1um,1t7,1to",
  "1un,1tb,1to 1y4,1wh,1x8 1y5,1wi,1x8 1y7,1wv,1x8 20j,20i,20s 20m,20o,20s 21l,1zq,20s 21m,1zr,20s",
  "21n,1zw,20s 21q,20b,20s 28s,275,27w 28t,276,27w 2sz,2tp,2sy 2wj,2x9,2wi 2xo,2wb,2vt 2xp,2wb,2w1",
  "30j,30i,33r 30t,30s,33r 30y,30x,33r 313,312,33r 318,317,33r 31l,30g,33p 31v,31t,31u 31x,31t,31w",
  "31y,33m,328 31z,33m,31t,328 320,33n,328 321,33n,31t,328 329,31t,328 32r,32q,33r 331,330,33r",
  "336,335,33r 33b,33a,33r 33g,33f,33r 33t,32o,33p 61m,2p,ji 680,64g,qh 681,64h,qh 682,64i,qh",
  "683,64j,qh 684,64k,qh 685,64l,qh 686,64m,qh 687,64n,qh 688,64g,qh 689,64h,qh 68a,64i,qh",
  "68b,64j,qh 68c,64k,qh 68d,64l,qh 68e,64m,qh 68f,64n,qh 68g,65c,qh 68h,65d,qh 68i,65e,qh",
  "68j,65f,qh 68k,65g,qh 68l,65h,qh 68m,65i,qh 68n,65j,qh 68o,65c,qh 68p,65d,qh 68q,65e,qh",
  "68r,65f,qh 68s,65g,qh 68t,65h,qh 68u,65i,qh 68v,65j,qh 68w,674,qh 68x,675,qh 68y,676,qh",
  "68z,677,qh 690,678,qh 691,679,qh 692,67a,qh 693,67b,qh 694,674,qh 695,675,qh 696,676,qh",
  "697,677,qh 698,678,qh 699,679,qh 69a,67a,qh 69b,67b,qh 69e,67k,qh 69f,q9,qh 69g,q4,qh",
  "69j,69i,qh 69o,q9,qh 69p,w,lv 69r,w,lv 69s,w,n6 69t,w,lk,n6 69u,67o,qh 69v,qf,qh 69w,q6,qh",
  "69z,69y,qh 6a4,qf,qh 6a5,w,lv,lc 6a6,w,lv,ld 6a7,w,lv,n6 6al,w,lw,lc 6am,w,lw,ld 6an,w,lw,n6",
  "6b1,w,lk,lc 6b2,w,lk,ld 6b6,67w,qh 6b7,qx,qh 6b8,r2,qh 6bb,6ba,qh 6bg,qx,qh 6bh,w,ld 6bi,w,lw",
  "6c7,w,mr 6cz,6cy,6cy 6d0,6cy,6cy,6cy 6d2,6d1,6d1 6d3,6d1,6d1,6d1 6d8,x,x 6da,w,lh 6dj,1r,1r",
  "6dk,1r,x 6dl,x,1r 6dz,6cy,6cy,6cy,6cy 6g8,36,37 6io,2p,1b,2r 6ip,2p,1b,37 6ir,4w,2r",
  "6it,2r,1b,33 6iu,2r,1b,39 6ix,4w,2u 6ja,32,33 6jk,37,31 6jl,38,2t,30 6jm,38,31 6kb,2u,2p,3c",
  "6kw,1d,6dg,1j 6kx,1d,6dg,1l 6ky,1d,6dg,1d,1c 6kz,1d,6dg,1f 6l0,1e,6dg,1f 6l1,1d,6dg,1h",
  "6l2,1e,6dg,1h 6l3,1f,6dg,1h 6l4,1g,6dg,1h 6l5,1d,6dg,1i 6l6,1h,6dg,1i 6l7,1d,6dg,1k",
  "6l8,1f,6dg,1k 6l9,1h,6dg,1k 6la,1j,6dg,1k 6lb,1d,6dg 6ld,2x,2x 6le,2x,2x,2x 6lf,2x,3a 6lh,3a,2x",
  "6li,3a,2x,2x 6lj,3a,2x,2x,2x 6lk,2x,3c 6lm,3c,2x 6ln,3c,2x,2x 6lt,2x,2x 6lu,2x,2x,2x 6lv,2x,3a",
  "6lx,3a,2x 6ly,3a,2x,2x 6lz,3a,2x,2x,2x 6m0,2x,3c 6m2,3c,2x 6m3,3c,2x,2x 6mh,1c,6dg,1f",
  "6r0,6qz,6qz 6r1,6qz,6qz,6qz 6r3,6r2,6r2 6r4,6r2,6r2,6r2 76x,1d,1c 76y,1d,1d 76z,1d,1e 770,1d,1f",
  "771,1d,1g 772,1d,1h 773,1d,1i 774,1d,1j 775,1d,1k 776,1d,1l 777,1e,1c 778,14,1d,15 779,14,1e,15",
  "77a,14,1f,15 77b,14,1g,15 77c,14,1h,15 77d,14,1i,15 77e,14,1j,15 77f,14,1k,15 77g,14,1l,15",
  "77h,14,1d,1c,15 77i,14,1d,1d,15 77j,14,1d,1e,15 77k,14,1d,1f,15 77l,14,1d,1g,15 77m,14,1d,1h,15",
  "77n,14,1d,1i,15 77o,14,1d,1j,15 77p,14,1d,1k,15 77q,14,1d,1l,15 77r,14,1e,1c,15 78c,14,2p,15",
  "78d,14,2q,15 78e,14,2r,15 78f,14,2s,15 78g,14,2t,15 78h,14,2u,15 78i,14,2v,15 78j,14,2w,15",
  "78k,14,2x,15 78l,14,2y,15 78m,14,2z,15 78n,14,30,15 78o,14,31,15 78p,14,32,15 78q,14,33,15",
  "78r,14,34,15 78s,14,35,15 78t,14,36,15 78u,14,37,15 78v,14,38,15 78w,14,39,15 78x,14,3a,15",
  "78y,14,3b,15 78z,14,3c,15 790,14,3d,15 791,14,3e,15 8b0,6qz,6qz,6qz,6qz 8dw,1m,1m,1p 8dx,1p,1p",
  "8dy,1p,1p,1p 8gs,8gt,mw 9ln,w,9ll 9lo,w,9lm 9lr,9l4,9l6 9of,9mb,9mw 9vk,14,3cw,15 9vl,14,3cy,15",
  "9vm,14,3cz,15 9vn,14,3d1,15 9vo,14,3d2,15 9vp,14,3d3,15 9vq,14,3d5,15 9vr,14,3d7,15",
  "9vs,14,3d8,15 9vt,14,3da,15 9vu,14,3db,15 9vv,14,3dc,15 9vw,14,3dd,15 9vx,14,3de,15",
  "9vy,14,xz4,15 9vz,14,yvs,15 9w0,14,zc4,15 9w1,14,108s,15 9w2,14,10p4,15 9w3,14,115g,15",
  "9w4,14,1224,15 9w5,14,12ys,15 9w6,14,13f4,15 9w7,14,14bs,15 9w8,14,14s4,15 9w9,14,158g,15",
  "9wa,14,15os,15 9wb,14,1654,15 9wc,14,13p8,15 9wd,14,1350,13ic,15 9we,14,1350,16f8,15",
  "9wg,14,feo,15 9wh,14,fik,15 9wi,14,fex,15 9wj,14,h5n,15 9wk,14,fis,15 9wl,14,g31,15",
  "9wm,14,fer,15 9wn,14,g2z,15 9wo,14,fh9,15 9wp,14,gg1,15 9wq,14,kco,15 9wr,14,m7f,15",
  "9ws,14,ldg,15 9wt,14,kdk,15 9wu,14,ssx,15 9wv,14,h7j,15 9ww,14,k4l,15 9wx,14,kkq,15",
  "9wy,14,kcp,15 9wz,14,ny6,15 9x0,14,glp,15 9x1,14,mm1,15 9x2,14,rs1,15 9x3,14,nz1,15",
  "9x4,14,gc4,15 9x5,14,fkz,15 9x6,14,gos,15 9x7,14,i1y,15 9x8,14,nhf,15 9x9,14,flt,15",
  "9xa,14,rt3,15 9xb,14,ggk,15 9xc,14,nzh,15 9xd,14,fm9,15 9xe,14,pnu,15 9xf,14,po3,15",
  "9xs,34,38,2t 9xt,1e,1d 9xu,1e,1e 9xv,1e,1f 9xw,1e,1g 9xx,1e,1h 9xy,1e,1i 9xz,1e,1j 9y0,1e,1k",
  "9y1,1e,1l 9y2,1f,1c 9y3,1f,1d 9y4,1f,1e 9y5,1f,1f 9y6,1f,1g 9y7,1f,1h 9z0,14c8,y5c",
  "9z1,13p8,13dk a0h,1f,1i a0i,1f,1j a0j,1f,1k a0k,1f,1l a0l,1g,1c a0m,1g,1d a0n,1g,1e a0o,1g,1f",
  "a0p,1g,1g a0q,1g,1h a0r,1g,1i a0s,1g,1j a0t,1g,1k a0u,1g,1l a0v,1h,1c a0w,1d,kco a0x,1e,kco",
  "a0y,1f,kco a0z,1g,kco a10,1h,kco a11,1i,kco a12,1j,kco a13,1k,kco a14,1l,kco a15,1d,1c,kco",
  "a16,1d,1d,kco a17,1d,1e,kco a18,2w,2v a19,2t,36,2v a1a,2t,3a a1b,30,38,2s a2n,fl0,gp8",
  "a2o,9lu,9n5,9oc,9mw a2p,9lu,9nv,9n9,9lt a2q,9lu,9o3,9ne,9lu a2r,9lu,9oc,9nv a2s,9lw,9mz,9o3,9m8",
  "a2t,9lw,9o3,9mp a2u,9ly,9m1,9o3 a2v,9m0,9mh,9m7,9oc,9mx a2w,9m0,9oc,9m3,9oc a2x,9m2,9o3,9mh",
  "a2y,9m2,9oc,9nk a2z,9m3,9lw,9nu a30,9m3,9nt,9mr,9mw a31,9m3,9nx,9nu,9oc a32,9m4,9nx,9o3",
  "a33,9m4,9o3,9ni a34,9m6,9m4 a35,9m6,9mz,9oc a36,9m5,9np,9nu,9oc a37,9m6,9nv,9mo,9oc a38,9m5,9nx",
  "a39,9m5,9nx,9m8,9nt,9nk a3a,9m5,9nx,9nl,9oc,9mw,9nv a3b,9m5,9nx,9nz,9mr,9mw a3c,9m8,9nt,9nk",
  "a3d,9m8,9nt,9nk,9mw,9o3 a3e,9m7,9nv,9mk,9lw,9nx a3f,9m7,9nx,9oc,9n1 a3g,9m9,9oc,9mh",
  "a3h,9mb,9nv,9my a3i,9mb,9oc,9nh a3j,9md,9lw,9m7,9nv a3k,9md,9o3,9mp,9oc,9nk a3l,9mf,9nu,9o3,9m8",
  "a3m,9mj,9o3,9mp a3n,9mj,9o3,9mw a3o,9mo,9oc,9mh a3p,9mv,9mf a3q,9mx,9nv a3r,9mw,9o3 a3s,9my,9n2",
  "a3t,9n2,9mr,9mw a3u,9n3,9lw,9ms a3v,9n5,9oc,9mj,9o3,9mw a3w,9n5,9oc,9ms a3x,9n4,9oc,9nw,9nv",
  "a3y,9n8,9lu,9mh,9mw,9nv a3z,9n8,9m7,9nv a40,9n8,9mb a41,9n7,9nv a42,9n9,9lt,9nt,9mr,9mx",
  "a43,9n9,9lv,9oc,9mw a44,9na,9mr,9mf,9lz,9nv a45,9n9,9nt,9o3 a46,9nc,9m7,9mn,9oc,9nv a47,9ne,9ml",
  "a48,9ne,9mz,9n6 a49,9nc,9nv,9ms a4a,9ne,9o3,9mh a4b,9ne,9oc,9mg a4c,9nd,9oc,9mn",
  "a4d,9nh,9lw,9o3,9mw a4e,9ng,9nv,9mw a4f,9nf,9o3 a4g,9nh,9o3,9mx a4h,9nf,9oc,9nv a4i,9nf,9oc,9o3",
  "a4j,9ni,9lw,9m7,9nx a4k,9ni,9lw,9nv a4l,9ni,9mr,9n3 a4m,9ni,9nv,9m7 a4n,9ni,9o3,9mf,9nr,9o3",
  "a4o,9nj,9m7,9nx,9o3 a4p,9nj,9nu a4q,9nj,9nu,9n4,9oc,9nv a4r,9nl,9m4 a4s,9nl,9m4,9mw,9o3",
  "a4t,9nl,9oc,9mw,9nv a4u,9no,9oc,9mx a4v,9no,9oc,9nv a4w,9nq,9lu,9o3 a4x,9nu,9mr,9mw,9nv",
  "a4y,9nu,9nt a4z,9nv,9n8,9oc a50,9nv,9oc,9na,9nv a51,9nw,9nk a52,9nw,9o3,9mw,9ma,9o3",
  "a53,9nz,9mr,9mw a54,1c,m9l a55,1d,m9l a56,1e,m9l a57,1f,m9l a58,1g,m9l a59,1h,m9l a5a,1i,m9l",
  "a5b,1j,m9l a5c,1k,m9l a5d,1l,m9l a5e,1d,1c,m9l a5f,1d,1d,m9l a5g,1d,1e,m9l a5h,1d,1f,m9l",
  "a5i,1d,1g,m9l a5j,1d,1h,m9l a5k,1d,1i,m9l a5l,1d,1j,m9l a5m,1d,1k,m9l a5n,1d,1l,m9l",
  "a5o,1e,1c,m9l a5p,1e,1d,m9l a5q,1e,1e,m9l a5r,1e,1f,m9l a5s,1e,1g,m9l a5t,2w,34,2p a5u,2s,2p",
  "a5v,2p,39 a5w,2q,2p,36 a5x,33,3a a5y,34,2r a5z,2s,31 a60,2s,31,1e a61,2s,31,1f a62,2x,39",
  "a63,inn,jdc a64,k6l,gp8 a65,hlz,l7n a66,k5q,lh7 a67,kkq,irz,fmi,ny6 a68,34,2p a69,32,2p",
  "a6a,qk,2p a6b,31,2p a6c,2z,2p a6d,2z,2q a6e,31,2q a6f,2v,2q a6g,2r,2p,30 a6h,2z,2r,2p,30",
  "a6i,34,2u a6j,32,2u a6k,qk,2u a6l,qk,2v a6m,31,2v a6n,2z,2v a6o,2w,3e a6p,2z,2w,3e a6q,31,2w,3e",
  "a6r,2v,2w,3e a6s,38,2w,3e a6t,qk,30 a6u,31,30 a6v,2s,30 a6w,2z,30 a6x,2u,31 a6y,32,31 a6z,qk,31",
  "a70,31,31 a71,2r,31 a72,2z,31 a73,31,31,1e a74,2r,31,1e a75,31,1e a76,2z,31,1e a77,31,31,1f",
  "a78,2r,31,1f a79,31,1f a7a,2z,31,1f a7b,31,6qd,37 a7c,31,6qd,37,1e a7d,34,2p a7e,2z,34,2p",
  "a7f,31,34,2p a7g,2v,34,2p a7h,36,2p,2s a7i,36,2p,2s,6qd,37 a7j,36,2p,2s,6qd,37,1e a7k,34,37",
  "a7l,32,37 a7m,qk,37 a7n,31,37 a7o,34,3a a7p,32,3a a7q,qk,3a a7r,31,3a a7s,2z,3a a7t,31,3a",
  "a7u,34,3b a7v,32,3b a7w,qk,3b a7x,31,3b a7y,2z,3b a7z,31,3b a80,2z,qx a81,31,qx a83,2q,35",
  "a84,2r,2r a85,2r,2s a86,2r,6qd,2z,2v a88,2s,2q a89,2v,3d a8a,2w,2p a8b,2w,34 a8c,2x,32",
  "a8d,2z,2z a8e,2z,31 a8f,2z,38 a8g,30,31 a8h,30,32 a8i,30,33,2v a8j,30,3c a8k,31,2q a8l,31,2x,30",
  "a8m,31,33,30 a8n,34,2w a8p,34,34,31 a8q,34,36 a8r,37,36 a8s,37,3a a8t,3b,2q a8u,3a,6qd,31",
  "a8v,2p,6qd,31 a8w,1d,k4l a8x,1e,k4l a8y,1f,k4l a8z,1g,k4l a90,1h,k4l a91,1i,k4l a92,1j,k4l",
  "a93,1k,k4l a94,1l,k4l a95,1d,1c,k4l a96,1d,1d,k4l a97,1d,1e,k4l a98,1d,1f,k4l a99,1d,1g,k4l",
  "a9a,1d,1h,k4l a9b,1d,1i,k4l a9c,1d,1j,k4l a9d,1d,1k,k4l a9e,1d,1l,k4l a9f,1e,1c,k4l",
  "a9g,1e,1d,k4l a9h,1e,1e,k4l a9i,1e,1f,k4l a9j,1e,1g,k4l a9k,1e,1h,k4l a9l,1e,1i,k4l",
  "a9m,1e,1j,k4l a9n,1e,1k,k4l a9o,1e,1l,k4l a9p,1f,1c,k4l a9q,1f,1d,k4l a9r,2v,2p,30 1dkw,2u,2u",
  "1dkx,2u,2x 1dky,2u,30 1dkz,2u,2u,2x 1dl0,2u,2u,30 1dl1,37,38 1dl2,37,38 1dlf,12s,12u",
  "1dlg,12s,12d 1dlh,12s,12j 1dli,132,12u 1dlj,12s,12l 1dlp,15l,14k 1dlr,16a,14n 1dm2,161,14x",
  "1dm3,161,14y 1dm4,161,14s,14x 1dm5,161,14s,14y 1dm6,15c,14n 1dm7,15c,14o 1dm8,15c,14s",
  "1dm9,15d,14s 1dma,15e,14s 1dmb,15f,14s 1dmc,15g,14s 1dmd,15h,14s 1dme,15i,14s 1dmg,15k,14s",
  "1dmh,15l,14s 1dmi,15m,14s 1dmj,15n,14s 1dmk,15o,14s 1dmm,15q,14s 1dmo,15s,14s 1dmp,15t,14s",
  "1dmr,15v,14s 1dms,15w,14s 1dmu,15y,14s 1dmv,15z,14s 1dmw,160,14s 1dmx,161,14s 1dmy,162,14s",
  "1dmz,15h,14p 1dn0,15d,14v 1dn1,15n,14v 1dn2,15w,14v 1dn3,15c,15o 1dr1,1c7,19w 1dre,17q,17r",
  "1drf,17q,17r 1drg,17q,1cl 1drh,17q,1cl 1dri,17q,18o 1drj,17q,18o 1drk,17q,1c7 1drl,17q,1c7",
  "1drm,17q,1c6 1drn,17q,1c6 1dro,17q,1c8 1drp,17q,1c8 1drq,17q,1cg 1drr,17q,1cg 1drs,17q,1cg",
  "1drt,17q,18p 1dru,17q,18p 1drv,17q,18p 1ds0,17q,17w 1ds1,17q,17x 1ds2,17q,18l 1ds3,17q,18p",
  "1ds4,17q,18q 1ds5,17s,17w 1ds6,17s,17x 1ds7,17s,17y 1ds8,17s,18l 1ds9,17s,18p 1dsa,17s,18q",
  "1dsb,17u,17w 1dsc,17u,17x 1dsd,17u,17y 1dse,17u,18l 1dsf,17u,18p 1dsg,17u,18q 1dsh,17v,17w",
  "1dsi,17v,18l 1dsj,17v,18p 1dsk,17v,18q 1dsl,17w,17x 1dsm,17w,18l 1dsn,17x,17w 1dso,17x,18l",
  "1dsp,17y,17w 1dsq,17y,17x 1dsr,17y,18l 1dss,183,17w 1dst,183,17x 1dsu,183,17y 1dsv,183,18l",
  "1dsw,185,17x 1dsx,185,18l 1dsy,186,17w 1dsz,186,17x 1dt0,186,17y 1dt1,186,18l 1dt2,187,17x",
  "1dt3,187,18l 1dt4,188,18l 1dt5,189,17w 1dt6,189,18l 1dt7,18a,17w 1dt8,18a,18l 1dt9,18h,17w",
  "1dta,18h,17x 1dtb,18h,17y 1dtc,18h,18l 1dtd,18h,18p 1dte,18h,18q 1dtf,18i,17x 1dtg,18i,18l",
  "1dth,18i,18p 1dti,18i,18q 1dtj,18j,17r 1dtk,18j,17w 1dtl,18j,17x 1dtm,18j,17y 1dtn,18j,18k",
  "1dto,18j,18l 1dtp,18j,18p 1dtq,18j,18q 1dtr,18k,17w 1dts,18k,17x 1dtt,18k,17y 1dtu,18k,18l",
  "1dtv,18k,18p 1dtw,18k,18q 1dtx,18l,17w 1dty,18l,17x 1dtz,18l,17y 1du0,18l,18l 1du1,18l,18p",
  "1du2,18l,18q 1du3,18m,17w 1du4,18m,17x 1du5,18m,17y 1du6,18m,18l 1du7,18m,18p 1du8,18m,18q",
  "1du9,18n,17w 1dua,18n,18l 1dub,18n,18p 1duc,18n,18q 1dud,18q,17w 1due,18q,17x 1duf,18q,17y",
  "1dug,18q,18l 1duh,18q,18p 1dui,18q,18q 1duj,180,19s 1duk,181,19s 1dul,18p,19s 1dum,w,18s,18x",
  "1dun,w,18t,18x 1duo,w,18u,18x 1dup,w,18v,18x 1duq,w,18w,18x 1dur,w,18x,19s 1dus,17q,181",
  "1dut,17q,182 1duu,17q,18l 1duv,17q,18m 1duw,17q,18p 1dux,17q,18q 1duy,17s,181 1duz,17s,182",
  "1dv0,17s,18l 1dv1,17s,18m 1dv2,17s,18p 1dv3,17s,18q 1dv4,17u,181 1dv5,17u,182 1dv6,17u,18l",
  "1dv7,17u,18m 1dv8,17u,18p 1dv9,17u,18q 1dva,17v,181 1dvb,17v,182 1dvc,17v,18l 1dvd,17v,18m",
  "1dve,17v,18p 1dvf,17v,18q 1dvg,18h,18p 1dvh,18h,18q 1dvi,18i,18p 1dvj,18i,18q 1dvk,18j,17r",
  "1dvl,18j,18k 1dvm,18j,18l 1dvn,18j,18p 1dvo,18j,18q 1dvp,18k,18l 1dvq,18k,18p 1dvr,18k,18q",
  "1dvs,18l,17r 1dvt,18l,18l 1dvu,18m,181 1dvv,18m,182 1dvw,18m,18l 1dvx,18m,18m 1dvy,18m,18p",
  "1dvz,18m,18q 1dw0,18p,19s 1dw1,18q,181 1dw2,18q,182 1dw3,18q,18l 1dw4,18q,18m 1dw5,18q,18p",
  "1dw6,18q,18q 1dw7,17q,17w 1dw8,17q,17x 1dw9,17q,17y 1dwa,17q,18l 1dwb,17q,18n 1dwc,17s,17w",
  "1dwd,17s,17x 1dwe,17s,17y 1dwf,17s,18l 1dwg,17s,18n 1dwh,17u,17w 1dwi,17u,17x 1dwj,17u,17y",
  "1dwk,17u,18l 1dwl,17u,18n 1dwm,17v,18l 1dwn,17w,17x 1dwo,17w,18l 1dwp,17x,17w 1dwq,17x,18l",
  "1dwr,17y,17w 1dws,17y,18l 1dwt,183,17w 1dwu,183,17x 1dwv,183,17y 1dww,183,18l 1dwx,185,17x",
  "1dwy,185,17y 1dwz,185,18l 1dx0,186,17w 1dx1,186,17x 1dx2,186,17y 1dx3,186,18l 1dx4,187,17x",
  "1dx5,188,18l 1dx6,189,17w 1dx7,189,18l 1dx8,18a,17w 1dx9,18a,18l 1dxa,18h,17w 1dxb,18h,17x",
  "1dxc,18h,17y 1dxd,18h,18l 1dxe,18i,17x 1dxf,18i,18l 1dxg,18j,17w 1dxh,18j,17x 1dxi,18j,17y",
  "1dxj,18j,18k 1dxk,18j,18l 1dxl,18k,17w 1dxm,18k,17x 1dxn,18k,17y 1dxo,18k,18l 1dxp,18k,18n",
  "1dxq,18l,17w 1dxr,18l,17x 1dxs,18l,17y 1dxt,18l,18l 1dxu,18m,17w 1dxv,18m,17x 1dxw,18m,17y",
  "1dxx,18m,18l 1dxy,18m,18n 1dxz,18n,17w 1dy0,18n,18l 1dy1,18n,19s 1dy2,18q,17w 1dy3,18q,17x",
  "1dy4,18q,17y 1dy5,18q,18l 1dy6,18q,18n 1dy7,17q,18l 1dy8,17q,18n 1dy9,17s,18l 1dya,17s,18n",
  "1dyb,17u,18l 1dyc,17u,18n 1dyd,17v,18l 1dye,17v,18n 1dyf,183,18l 1dyg,183,18n 1dyh,184,18l",
  "1dyi,184,18n 1dyj,18j,18k 1dyk,18j,18l 1dyl,18k,18l 1dym,18m,18l 1dyn,18m,18n 1dyo,18q,18l",
  "1dyp,18q,18n 1dyq,18g,18u,18x 1dyr,18g,18v,18x 1dys,18g,18w,18x 1dyt,187,18p 1dyu,187,18q",
  "1dyv,189,18p 1dyw,189,18q 1dyx,18a,18p 1dyy,18a,18q 1dyz,183,18p 1dz0,183,18q 1dz1,184,18p",
  "1dz2,184,18q 1dz3,17x,18p 1dz4,17x,18q 1dz5,17w,18p 1dz6,17w,18q 1dz7,17y,18p 1dz8,17y,18q",
  "1dz9,185,18p 1dza,185,18q 1dzb,186,18p 1dzc,186,18q 1dzd,184,17w 1dze,184,17x 1dzf,184,17y",
  "1dzg,184,18l 1dzh,184,181 1dzi,183,181 1dzj,185,181 1dzk,186,181 1dzl,187,18p 1dzm,187,18q",
  "1dzn,189,18p 1dzo,189,18q 1dzp,18a,18p 1dzq,18a,18q 1dzr,183,18p 1dzs,183,18q 1dzt,184,18p",
  "1dzu,184,18q 1dzv,17x,18p 1dzw,17x,18q 1dzx,17w,18p 1dzy,17w,18q 1dzz,17y,18p 1e00,17y,18q",
  "1e01,185,18p 1e02,185,18q 1e03,186,18p 1e04,186,18q 1e05,184,17w 1e06,184,17x 1e07,184,17y",
  "1e08,184,18l 1e09,184,181 1e0a,183,181 1e0b,185,181 1e0c,186,181 1e0d,184,17w 1e0e,184,17x",
  "1e0f,184,17y 1e0g,184,18l 1e0h,183,18n 1e0i,184,18n 1e0j,187,18l 1e0k,183,17w 1e0l,183,17x",
  "1e0m,183,17y 1e0n,184,17w 1e0o,184,17x 1e0p,184,17y 1e0q,187,18l 1e0r,188,18l 1e0s,17r,18r",
  "1e0t,17r,18r 1e1c,17u,17w,18l 1e1d,17u,17x,17w 1e1e,17u,17x,17w 1e1f,17u,17x,18l",
  "1e1g,17u,17y,18l 1e1h,17u,18l,17w 1e1i,17u,18l,17x 1e1j,17u,18l,17y 1e1k,17w,18l,17x",
  "1e1l,17w,18l,17x 1e1m,17x,18l,18q 1e1n,17x,18l,18p 1e1o,183,17x,17w 1e1p,183,17w,17x",
  "1e1q,183,17w,18p 1e1r,183,18l,17x 1e1s,183,18l,17x 1e1t,183,18l,17w 1e1u,183,18l,18l",
  "1e1v,183,18l,18l 1e1w,185,17x,17x 1e1x,185,17x,17x 1e1y,185,18l,18l 1e1z,184,17x,18l",
  "1e20,184,17x,18l 1e21,184,17w,18q 1e22,184,18l,17y 1e23,184,18l,17y 1e24,184,18l,18l",
  "1e25,184,18l,18l 1e26,186,17x,18p 1e27,186,17y,18l 1e28,186,17y,18l 1e29,187,18l,17x",
  "1e2a,187,18l,17x 1e2b,187,18l,18l 1e2c,187,18l,18q 1e2d,189,17w,18l 1e2e,189,18l,18l",
  "1e2f,189,18l,18l 1e2g,189,18l,18p 1e2h,18a,18l,18l 1e2i,18a,18l,18q 1e2j,18a,18l,18p",
  "1e2k,18h,17y,18l 1e2l,18h,17y,18l 1e2m,18i,18l,17x 1e2n,18i,18l,18l 1e2o,18k,17x,18l",
  "1e2p,18k,17x,18q 1e2q,18k,17x,18p 1e2r,18k,17w,17w 1e2s,18k,17w,17w 1e2t,18k,17y,18l",
  "1e2u,18k,17y,18l 1e2v,18k,18l,17x 1e2w,18k,18l,17x 1e2x,18l,17x,17w 1e2y,18l,17x,18l",
  "1e2z,18l,17x,18q 1e30,18l,17w,17x 1e31,18l,17w,18l 1e32,18l,17y,17w 1e33,18l,17y,18l",
  "1e36,18l,17w,17y 1e37,18n,18l,17w 1e38,18n,18l,18l 1e39,18m,17x,18l 1e3a,18m,17x,18p",
  "1e3b,18m,17w,18l 1e3c,18m,17w,18l 1e3d,18m,17w,18p 1e3e,18m,18l,18q 1e3f,18m,18l,18p",
  "1e3g,18q,18l,18l 1e3h,18q,18l,18l 1e3i,17s,17y,18q 1e3j,17u,17w,18q 1e3k,17u,17w,18p",
  "1e3l,17u,17y,18q 1e3m,17u,17y,18p 1e3n,17u,18l,18q 1e3o,17u,18l,18p 1e3p,17w,18l,18q",
  "1e3q,17w,17x,18p 1e3r,17w,18l,18p 1e3s,183,17y,18p 1e3t,185,17x,18q 1e3u,184,17x,18q",
  "1e3v,186,17x,18q 1e3w,18k,17w,18q 1e3x,18k,18l,18q 1e3y,18q,17x,18q 1e3z,18q,17w,18q",
  "1e40,18q,18l,18q 1e41,18l,18l,18q 1e42,18i,18l,18q 1e43,18m,17x,18q 1e44,18i,18l,17x",
  "1e45,18k,17x,18l 1e46,189,18l,18q 1e47,18j,18l,18q 1e48,18m,17w,17x 1e49,18l,17y,18q",
  "1e4a,18k,17w,18l 1e4b,18j,18l,18l 1e4c,18k,17w,18l 1e4d,18m,17w,17x 1e4e,17w,17x,18q",
  "1e4f,17x,17w,18q 1e4g,18l,17w,18q 1e4h,18h,18l,18q 1e4i,17s,17x,18q 1e4j,18j,18l,18l",
  "1e4k,189,17w,18l 1e4l,185,18l,18l 1e4m,183,17y,18q 1e4n,18m,17w,18q 1e5s,185,18k,1ci",
  "1e5t,18i,18k,1ci 1e5u,17r,18k,18k,18n 1e5v,17r,18j,17s,181 1e5w,18l,17x,18l,17z",
  "1e5x,185,18k,189,18l 1e5y,181,183,18o,18k 1e5z,189,18k,18q,18n 1e60,18o,183,18k,18l",
  "1e61,185,18k,18p 1e62,185,18k,18p,w,17r,18k,18k,18n,w,189,18k,18q,18n,w,18o,183,18k,18l",
  "1e63,17w,18k,w,17w,18k,17r,18k,18n 1e64,181,1cc,17r,18k 1e89,w,lh 1e8a,w,lh 1e8b,w,lh 1e8c,w,lh",
  "1e9c,w,18r 1e9d,18g,18r 1e9e,w,18s 1e9g,w,18t 1e9i,w,18u 1e9j,18g,18u 1e9k,w,18v 1e9l,18g,18v",
  "1e9m,w,18w 1e9n,18g,18w 1e9o,w,18x 1e9p,18g,18x 1e9q,w,18y 1e9r,18g,18y 1ed1,18k,17m",
  "1ed2,18k,17m 1ed3,18k,17n 1ed4,18k,17n 1ed5,18k,17p 1ed6,18k,17p 1ed7,18k,17r 1ed8,18k,17r",
  "1ejn,w,lg 2jxa,2jx3,2jxh 2jxb,2jx4,2jxh 2jxc,2jx4,2jxh,2jxq 2jxd,2jx4,2jxh,2jxr",
  "2jxe,2jx4,2jxh,2jxs 2jxf,2jx4,2jxh,2jxt 2jxg,2jx4,2jxh,2jxu 2jzv,2jzt,2jxh 2jzw,2jzu,2jxh",
  "2jzx,2jzt,2jxh,2jxq 2jzy,2jzu,2jxh,2jxq 2jzz,2jzt,2jxh,2jxr 2k00,2jzu,2jxh,2jxr 2q69,1c,18",
  "2q6a,1d,18 2q6b,1e,18 2q6c,1f,18 2q6d,1g,18 2q6e,1h,18 2q6f,1i,18 2q6g,1j,18 2q6h,1k,18",
  "2q6i,1l,18 2q6o,14,2p,15 2q6p,14,2q,15 2q6q,14,2r,15 2q6r,14,2s,15 2q6s,14,2t,15 2q6t,14,2u,15",
  "2q6u,14,2v,15 2q6v,14,2w,15 2q6w,14,2x,15 2q6x,14,2y,15 2q6y,14,2z,15 2q6z,14,30,15",
  "2q70,14,31,15 2q71,14,32,15 2q72,14,33,15 2q73,14,34,15 2q74,14,35,15 2q75,14,36,15",
  "2q76,14,37,15 2q77,14,38,15 2q78,14,39,15 2q79,14,3a,15 2q7a,14,3b,15 2q7b,14,3c,15",
  "2q7c,14,3d,15 2q7d,14,3e,15 2q7e,9hw,37,9hx 2q7h,2r,2s 2q7i,3b,3e 2q8a,2w,3a 2q8b,31,3a",
  "2q8c,37,2s 2q8d,37,37 2q8e,34,34,3a 2q8f,3b,2r 2q96,31,2r 2q97,31,2s 2q98,31,36 2qa8,2s,2y",
  "2qdc,9kr,9jf 2qdd,9mb,9mb 2qf4,9hw,kdo,9hx 2qf5,9hw,fex,9hx 2qf6,9hw,fik,9hx 2qf7,9hw,i2x,9hx",
  "2qf8,9hw,m9l,9hx 2qf9,9hw,jf7,9hx 2qfa,9hw,nh3,9hx 2qfb,9hw,gd9,9hx 2qfc,9hw,k0n,9hx"]

end RuleLint.Unicode
